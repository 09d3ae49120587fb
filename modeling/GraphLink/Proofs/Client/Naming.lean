import GraphLink.Proofs.Address.Naming
import GraphLink.Proofs.Client.Logging
import GraphLink.Proofs.Client.Validation

/-! # Whom a message is about

    Messages name endpoints by their texts.  The last line that opening a driver writes has the text
    of the addresses in its first field, whatever was asked for and whether the driver opens or not
    (`Request.log_serve_of_admitted`), and so has the line about a router that does not answer
    (`Router.Logs.lists`).  The message about a router that takes too long ends in its text
    (`Router.address_eq_of_message_lateError_eq`).

    As a text is the text of one address only, a message that names one endpoint is about no other
    (`text_names_one_address`). -/

namespace GraphLink

open GraphLink.Text

variable {line : Event} {as bs : List Address} {a : Address}

-- ── Lines that list addresses ──────────────────────────────────────

/-- The first field of a line is a text for addresses. -/
def Event.Lists (line : Event) (as : List Address) : Prop :=
  ∃ key rest, line.fields = (key, Address.listText as) :: rest

/-- A line has one first field, so whatever it lists has the same text. -/
theorem Event.Lists.listText_eq (h : line.Lists as) (h' : line.Lists bs) :
    Address.listText as = Address.listText bs := by
  obtain ⟨key, rest, hfields⟩ := h
  obtain ⟨key', rest', hfields'⟩ := h'
  have hfirst : (key, Address.listText as) = (key', Address.listText bs) :=
    (List.cons.inj (hfields.symm.trans hfields')).1
  exact (Prod.mk.inj hfirst).2

-- ── Openings ───────────────────────────────────────────────────────

/-- The addresses of an endpoint. -/
def Endpoint.addresses : Endpoint → List Address
  | .direct address => [address]
  | .routing addresses _ => addresses

/-- The endpoint that an opening ends with: that of the driver, or what was asked for if there is
    none. -/
def Backend.reached (b : Backend) (endpoint : Endpoint) : Endpoint :=
  match b.openFault with
  | none => b.connected endpoint
  | some _ => endpoint

namespace Opening

variable {b : Backend} {pool : Nat} {auth : AuthToken} {o o' : Options} {config : DriverConfig}

/-- Opening a driver for one server writes one line, about the address that is reached. -/
theorem log_direct {target : String} (haddress : Address.parseTarget target = .ok a)
    (hoptions : DriverConfig.consume o = .ok config) :
    ∃ line, (direct b pool target auth o).log = [line]
      ∧ line.Lists (b.reached (.direct a)).addresses := by
  rw [direct, haddress, hoptions, Backend.reached]
  show ∃ line, ((callConnector b (.openDirect a auth config) a.text).bind _).log = [line] ∧ _
  rw [callConnector, ← Address.listText_singleton]
  cases b.openFault with
  | none => exact ⟨_, rfl, _, _, rfl⟩
  | some fault => exact ⟨_, rfl, _, _, rfl⟩

/-- Opening a driver for a cluster writes one line, about the routers that are reached. -/
theorem log_routing {targets : List String} {context : RoutingContext}
    (haddresses : Address.parseTargets targets = .ok as)
    (hreserved : context.contains RoutingContext.reservedKey = false)
    (hoptions : DriverConfig.consume o = .ok config) :
    ∃ line, (routing b pool targets auth context o).log = [line]
      ∧ line.Lists (b.reached (.routing as context)).addresses := by
  rw [routing, haddresses, RoutingContext.checkReserved, hreserved, hoptions, Backend.reached]
  show ∃ line, ((callConnector b (.openRouting as auth context config) _).bind _).log = [line] ∧ _
  rw [callConnector]
  cases b.openFault with
  | none => exact ⟨_, rfl, _, _, rfl⟩
  | some fault => exact ⟨_, rfl, _, _, rfl⟩

/-- Reading a URI writes one line about it. -/
theorem classify_of_ok {text : String} {u : ConnectionUri}
    (h : ConnectionUri.classify text = .ok u) :
    classify text = ⟨.ok u, [], [u.classifiedEvent text]⟩ := by
  rw [classify, check, h]
  rfl

/-- A check that passes adds nothing to what follows. -/
theorem bind_check_ok {ε α β : Type} (toError : ε → Error) (x : α) (next : α → Report β) :
    (check toError (.ok x) >>= next) = next x :=
  Report.bind_ofExcept_ok x next

/-- A URI that passes is written down first. -/
theorem log_uri_of_passes {text : String} {request : Request} (h : Passes text o request o')
    (b : Backend) (pool : Nat) (auth : AuthToken) :
    ∃ first, (uri b pool text auth o).log = first :: (request.serve b pool auth o').log := by
  cases h with
  | @server u _ _ hclassify hsecurity hcontext hkind hempty =>
      refine ⟨u.classifiedEvent text, ?_⟩
      rw [uri, classify_of_ok hclassify]
      refine congrArg (u.classifiedEvent text :: ·) ?_
      simp only [hsecurity, hcontext, hkind, bind_check_ok]
      rw [if_pos hempty]
      rfl
  | @cluster u _ _ hclassify hsecurity hcontext hkind =>
      refine ⟨u.classifiedEvent text, ?_⟩
      rw [uri, classify_of_ok hclassify]
      refine congrArg (u.classifiedEvent text :: ·) ?_
      simp only [hsecurity, hcontext, hkind, bind_check_ok]
      rfl

end Opening

/-- **AN OPENING ENDS WITH A LINE THAT LISTS ITS ADDRESSES.** -/
theorem Request.log_serve_of_admitted {request : Request} {o : Options} {endpoint : Endpoint}
    {config : DriverConfig} (h : Admitted request o endpoint config) (b : Backend) (pool : Nat)
    (auth : AuthToken) :
    ∃ before line, (request.serve b pool auth o).log = before ++ [line]
      ∧ line.Lists (b.reached endpoint).addresses := by
  induction h with
  | behind hpasses _ ih =>
      obtain ⟨before, line, hlog, hlists⟩ := ih
      obtain ⟨first, hfirst⟩ := Opening.log_uri_of_passes hpasses b pool auth
      refine ⟨first :: before, line, ?_, hlists⟩
      rw [serve, hfirst, hlog]
      rfl
  | server haddress hoptions =>
      obtain ⟨line, hlog, hlists⟩ := Opening.log_direct haddress hoptions
      exact ⟨[], line, hlog, hlists⟩
  | cluster haddresses hreserved hoptions =>
      obtain ⟨line, hlog, hlists⟩ := Opening.log_routing haddresses hreserved hoptions
      exact ⟨[], line, hlog, hlists⟩

-- ── Routers ────────────────────────────────────────────────────────

namespace Router

variable {r r' : Router} {timeout timeout' : Duration} {lines : List Event}

/-- A line about a router lists its address. -/
theorem Logs.lists (h : r.Logs timeout lines) (hline : line ∈ lines) :
    line.Lists [r.address] := by
  rw [Event.Lists, Address.listText_singleton]
  cases h with
  | answered => cases hline
  | failed =>
      rw [List.mem_singleton.mp hline]
      exact ⟨_, _, rfl⟩
  | late =>
      rw [List.mem_singleton.mp hline]
      exact ⟨_, _, rfl⟩

/-- The message about a router that is late ends with the address, behind the time allowed and a
    blank. -/
theorem toList_message_lateError (r : Router) (timeout : Duration) :
    (r.lateError timeout).message.toList = ("Service unavailable: " ++ "Timed out after ").toList
      ++ (timeout.text.toList ++ ' ' :: ("fetching routing info from ".toList
        ++ r.address.render)) := by
  have hspace : " fetching routing info from ".toList
      = ' ' :: "fetching routing info from ".toList := rfl
  show ("Service unavailable: " ++ ("Timed out after " ++ timeout.text
    ++ " fetching routing info from " ++ String.ofList r.address.render)).toList = _
  simp only [String.toList_append, String.toList_ofList, hspace, List.append_assoc,
    List.cons_append]

/-- The first space behind the time allowed ends it, so what stands behind is the same for both. -/
theorem address_eq_of_message_lateError_eq
    (h : (r.lateError timeout).message = (r'.lateError timeout').message) :
    r.address = r'.address := by
  have hcut : ∀ (d : Duration) (behind : List Char),
      cutFirst ' ' (d.text.toList ++ ' ' :: behind) = some (d.text.toList, behind) :=
    fun d behind => cutFirst_eq_some.mpr ⟨rfl, d.space_notMem_text⟩
  have hchars := congrArg String.toList h
  rw [toList_message_lateError, toList_message_lateError] at hchars
  have hbehind := congrArg (cutFirst ' ') (List.append_cancel_left hchars)
  rw [hcut, hcut] at hbehind
  obtain ⟨-, hbehind⟩ := Prod.mk.inj (Option.some.inj hbehind)
  exact Address.render_injective (List.append_cancel_left hbehind)

end Router

-- ── Lines about endpoints ──────────────────────────────────────────

/-- The lines that are about addresses: the last one of an opening, about those of the driver, or
    about those that were asked for if there is no driver; and those that asking a router is worth,
    about its own. -/
inductive Event.IsAbout (line : Event) : List Address → Prop where
  | opening {request : Request} {o : Options} {endpoint : Endpoint} {config : DriverConfig}
      {b : Backend} {pool : Nat} {auth : AuthToken} (hadmitted : Admitted request o endpoint config)
      (hline : (request.serve b pool auth o).log.getLast? = some line) :
      IsAbout line (b.reached endpoint).addresses
  | asking {r : Router} {timeout : Duration} {lines : List Event} (hlogs : r.Logs timeout lines)
      (hline : line ∈ lines) : IsAbout line [r.address]

/-- What a line is about stands in its first field. -/
theorem Event.IsAbout.lists (h : line.IsAbout as) : line.Lists as := by
  cases h with
  | @opening request o endpoint config b pool auth hadmitted hline =>
      obtain ⟨before, last, hlog, hlists⟩ := Request.log_serve_of_admitted hadmitted b pool auth
      rw [hlog, List.getLast?_concat] at hline
      cases hline
      exact hlists
  | asking hlogs hline => exact hlogs.lists hline

/-- **NO TEXT NAMES TWO ADDRESSES.**  Addresses with the same text have the same host and the same
    port, whatever is in the hosts.  So a line of the log that is about one address is about no
    other, and neither is the message about a router that takes too long.  A line about several
    addresses tells which they are unless there is a blank in a host, and there is none in the host
    of a router that targets name. -/
theorem text_names_one_address :
    (∀ a b : Address, a.text = b.text → a.host = b.host ∧ a.port = b.port)
      ∧ (∀ (line : Event) (a b : Address), line.IsAbout [a] → line.IsAbout [b] → a = b)
      ∧ (∀ (r r' : Router) (timeout timeout' : Duration),
          (r.lateError timeout).message = (r'.lateError timeout').message →
            r.address = r'.address)
      ∧ (∀ (line : Event) (as bs : List Address), line.IsAbout as → line.IsAbout bs →
          (∀ a ∈ as, a.IsUnspaced) → (∀ b ∈ bs, b.IsUnspaced) → as = bs)
      ∧ ∀ targets as, Address.parseTargets targets = .ok as → ∀ a ∈ as, a.IsUnspaced := by
  refine ⟨?_, ?_, ?_, ?_, ?_⟩
  · intro a b h
    obtain rfl := Address.text_inj.mp h
    exact ⟨rfl, rfl⟩
  · intro line a b ha hb
    have htexts := ha.lists.listText_eq hb.lists
    rw [Address.listText_singleton, Address.listText_singleton] at htexts
    exact Address.text_inj.mp htexts
  · intro r r' timeout timeout' h
    exact Router.address_eq_of_message_lateError_eq h
  · intro line as bs has hbs has' hbs'
    exact (Address.listText_inj has' hbs').mp (has.lists.listText_eq hbs.lists)
  · intro targets as h
    exact Address.isUnspaced_of_parseTargets h

/-- What is logged for one IPv6 address is about that address, and about no other. -/
theorem text_names_one_address_ipv6 :
    Event.IsAbout ⟨.info, "Opened direct driver",
        [("address", "[::1]:7687"), ("encrypted", "false")]⟩ [⟨"::1", 7687⟩]
      ∧ (∀ a, Event.IsAbout ⟨.info, "Opened direct driver",
          [("address", "[::1]:7687"), ("encrypted", "false")]⟩ [a] → a = ⟨"::1", 7687⟩)
      ∧ ∀ a : Address, a.text = "[::1]:7687" → a.host = "::1" ∧ a.port = 7687 := by
  have hadmitted : Admitted (.server "[::1]:0") SortedMap.empty (.direct ⟨"::1", 7687⟩)
      { pool := {}, workspace := {} } := .server rfl rfl
  have hline : ((Request.server "[::1]:0").serve {} 0 .none SortedMap.empty).log.getLast?
      = some ⟨.info, "Opened direct driver",
        [("address", "[::1]:7687"), ("encrypted", "false")]⟩ := rfl
  have habout := Event.IsAbout.opening hadmitted hline
  refine ⟨habout, ?_, ?_⟩
  · intro a ha
    exact text_names_one_address.2.1 _ a ⟨"::1", 7687⟩ ha habout
  · intro a ha
    exact text_names_one_address.1 a ⟨"::1", 7687⟩ ha

end GraphLink
