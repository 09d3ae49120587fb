import GraphLink.Proofs.Address.RoundTrip
import GraphLink.Proofs.Client.Validation
import GraphLink.Proofs.Connection.Resolution
import GraphLink.Proofs.Uri.Place

/-! # Every plain host can be reached

    A host of letters, digits and `-._~` means nothing but itself, neither to the reader of URIs nor
    to that of addresses.  So a URI that is made of a scheme in any letter case, such a host and
    perhaps a port is read as these (`ConnectionUri.classify_host`), and its network location as
    the address of the two.  What is opened for it is that address, and for an address in writing
    the address itself (`Opening.plain_host_is_reached`). -/

namespace GraphLink

open GraphLink.Text

/-- A port in writing behind its colon; nothing if there is none. -/
def portSuffix (port : Option UInt16) : String :=
  (port.map (fun n => ":" ++ String.ofList (decimal n.toNat))).getD ""

/-- A plain host is written without brackets. -/
theorem Address.text_of_isHostChar {host : String}
    (hhost : ∀ c ∈ host.toList, Uri.isHostChar c = true) (n : UInt16) :
    Address.text ⟨host, n⟩ = host ++ portSuffix (some n) := by
  have hcolon : ':' ∉ host.toList := by
    intro hmem
    have hnot : Uri.isHostChar ':' = false := by decide
    exact Bool.false_ne_true (hnot.symm.trans (hhost ':' hmem))
  rw [← String.toList_inj, Address.text, String.toList_ofList, Address.render_of_notMem hcolon]
  simp [portSuffix, Address.portText]

namespace ConnectionUri

variable {s : Scheme} {spelled host tail : String}

/-- **A PLAIN HOST IS READ AS IT IS WRITTEN**, whatever the case of the scheme. -/
theorem classify_host (hscheme : spelled.toList.map Char.toLower = s.name.toList) (hne : host ≠ "")
    (hhost : ∀ c ∈ host.toList, Uri.isHostChar c = true) (htail : tail = "" ∨ tail = "/")
    (port : Option UInt16) :
    classify (spelled ++ "://" ++ host ++ portSuffix port ++ tail)
      = .ok ⟨s, String.ofList (Uri.ofHost s.name host.toList port).netloc, none⟩ := by
  have hchars : host.toList ≠ [] := fun hnil => hne (String.toList_eq_nil_iff.mp hnil)
  have hplain := Uri.isPlain_ofHost s.name hchars hhost port
  have hname := Scheme.ofName?_name s
  have htext : spelled ++ "://" ++ host ++ portSuffix port ++ tail
      = String.ofList (spelled.toList ++ ':' :: '/' :: '/' ::
          ((Uri.ofHost s.name host.toList port).netloc ++ tail.toList)) := by
    rw [← String.toList_inj, String.toList_ofList]
    cases port <;> simp [portSuffix, Uri.ofHost, Uri.netloc, Uri.Host.render]
  -- The tail is at most a slash, which ends the authority and is not dropped.
  have hslash : ∀ c ∈ tail.toList, c = '/' := by
    rcases htail with rfl | rfl
    · exact List.forall_mem_nil _
    · exact List.forall_mem_singleton.mpr rfl
  have hparse : Uri.parse (spelled ++ "://" ++ host ++ portSuffix port ++ tail)
      = .ok ((Uri.ofHost s.name host.toList port).followedBy tail.toList) := by
    rw [htext]
    refine Uri.parse_spelled hplain (ofScheme_of_ofName? hname) (Scheme.spells hscheme) ?_ ?_ ?_
    · intro c hc
      rw [hslash c (List.mem_of_head? hc)]
      rfl
    · intro c hc
      rw [hslash c hc]
      rfl
    · intro c hc
      rw [hslash c (List.mem_of_getLast? hc)]
      rfl
  refine classify_eq_ok.mpr ⟨_, s, hparse, ⟨hname, rfl, ?_⟩, ?_⟩
  all_goals rcases htail with rfl | rfl <;> rfl

end ConnectionUri

/-- The endpoint of an address under a scheme: the server itself, or the only router, with an empty
    context. -/
def Scheme.endpoint (s : Scheme) (address : Address) : Endpoint :=
  match s.kind with
  | .direct => .direct address
  | .routing => .routing [address] SortedMap.empty

namespace Opening

variable {s : Scheme} {spelled host tail : String} {o o' : Options} {config : DriverConfig}

/-- What a URI without a query is admitted with: the address of its network location. -/
theorem admitted_of_address {text netloc : String} {address : Address}
    (hclassify : ConnectionUri.classify text = .ok ⟨s, netloc, none⟩)
    (htarget : Address.parseTarget netloc = .ok address)
    (htargets : Address.parseTargets [netloc] = .ok [address])
    (hsecurity : o.applySecurity s.security = .ok o')
    (hoptions : DriverConfig.consume o' = .ok config) :
    Admitted (.uri text) o (s.endpoint address) config := by
  rw [Scheme.endpoint]
  cases hkind : s.kind with
  | direct =>
      have hpasses : Passes text o (.server netloc) o' := .server hclassify hsecurity rfl hkind rfl
      exact .behind hpasses (.server htarget hoptions)
  | routing =>
      have hpasses : Passes text o (.cluster [netloc] SortedMap.empty) o' :=
        .cluster hclassify hsecurity rfl hkind
      exact .behind hpasses (.cluster htargets rfl hoptions)

/-- A URI that is a scheme in any letter case, a plain host and perhaps a port opens a pool at that
    host: this is the one call, with port 7687 for none or zero. -/
theorem calls_uri_of_host (hscheme : spelled.toList.map Char.toLower = s.name.toList)
    (hne : host ≠ "") (hhost : ∀ c ∈ host.toList, Uri.isHostChar c = true)
    (htail : tail = "" ∨ tail = "/") (hsecurity : o.applySecurity s.security = .ok o')
    (hoptions : DriverConfig.consume o' = .ok config) (port : Option UInt16) (b : Backend)
    (pool : Nat) (auth : AuthToken) :
    (uri b pool (spelled ++ "://" ++ host ++ portSuffix port ++ tail) auth o).calls
      = [(s.endpoint ⟨host, if port.getD 0 = 0 then 7687 else port.getD 0⟩).openCall auth config
          b.openFault.isSome] := by
  have hchars : host.toList ≠ [] := fun hnil => hne (String.toList_eq_nil_iff.mp hnil)
  have hplain := Uri.isPlain_ofHost s.name hchars hhost port
  have haddress : (Uri.ofHost s.name host.toList port).address
      = ⟨host, if port.getD 0 = 0 then 7687 else port.getD 0⟩ := by
    rw [Uri.address]
    cases port <;> simp [Uri.ofHost, Uri.bareHost, Uri.Host.render, Address.defaultPort]
  have hsome : (Uri.ofHost s.name host.toList port).host ≠ none := Option.some_ne_none _
  have htarget := Uri.parseTarget_netloc hplain hsome
  have htargets := Uri.parseTargets_netloc hplain hsome
  rw [haddress] at htarget htargets
  have hadmitted := admitted_of_address
    (ConnectionUri.classify_host hscheme hne hhost htail port) htarget htargets hsecurity hoptions
  show (Request.serve b pool auth o (.uri _)).calls = _
  rw [Report.calls_of_effect (Request.effect_serve_of_admitted hadmitted b pool auth),
    Backend.snd_connect]

/-- **EVERY PLAIN HOST IS REACHED, UNCHANGED.**  Under each scheme in any letter case, with any port
    or none, with or without a slash behind it, and with all options that are accepted: what is
    opened is that host, at that port or at the standard one.  So the URI made of an address in
    writing opens that address. -/
theorem plain_host_is_reached (hscheme : spelled.toList.map Char.toLower = s.name.toList)
    (hne : host ≠ "") (hhost : ∀ c ∈ host.toList, Uri.isHostChar c = true)
    (htail : tail = "" ∨ tail = "/") (hsecurity : o.applySecurity s.security = .ok o')
    (hoptions : DriverConfig.consume o' = .ok config) (b : Backend) (pool : Nat)
    (auth : AuthToken) :
    (∀ port : Option UInt16,
        (uri b pool (spelled ++ "://" ++ host ++ portSuffix port ++ tail) auth o).calls
          = [(s.endpoint ⟨host, if port.getD 0 = 0 then 7687 else port.getD 0⟩).openCall auth config
              b.openFault.isSome])
      ∧ ∀ n : UInt16, n ≠ 0 →
        (uri b pool (spelled ++ "://" ++ Address.text ⟨host, n⟩ ++ tail) auth o).calls
          = [(s.endpoint ⟨host, n⟩).openCall auth config b.openFault.isSome] := by
  refine ⟨?_, ?_⟩
  · intro port
    exact calls_uri_of_host hscheme hne hhost htail hsecurity hoptions port b pool auth
  · intro n hn
    have hcalls :=
      calls_uri_of_host hscheme hne hhost htail hsecurity hoptions (some n) b pool auth
    have hport : (some n).getD 0 = n := rfl
    rw [hport, if_neg hn] at hcalls
    rw [Address.text_of_isHostChar hhost, ← String.append_assoc]
    exact hcalls

/-- A host that looks like an address cut short, at port zero, under a secure scheme. -/
theorem plain_host_is_reached_odd :
    (uri {} 0 "BOLT+s://-1.2.3.:0/" .none (SortedMap.ofList [("keep_alive", .bool false)])).calls
      = [.openDirect ⟨"-1.2.3.", 7687⟩ .none
          { pool := { keepAlive := false, encrypted := true }, workspace := {} } false] := by
  have hscheme : "BOLT+s".toList.map Char.toLower = Scheme.boltSecure.name.toList := rfl
  have hsecurity : Options.applySecurity Scheme.boltSecure.security
      (SortedMap.ofList [("keep_alive", .bool false)])
      = .ok (SortedMap.ofList [("keep_alive", .bool false), ("encrypted", .bool true)]) := rfl
  have hoptions : DriverConfig.consume
      (SortedMap.ofList [("keep_alive", .bool false), ("encrypted", .bool true)])
      = .ok { pool := { keepAlive := false, encrypted := true }, workspace := {} } := rfl
  have hhost : ∀ c ∈ "-1.2.3.".toList, Uri.isHostChar c = true := List.all_eq_true.mp (by decide)
  have htail : "/" = "" ∨ "/" = "/" := .inr rfl
  exact (plain_host_is_reached hscheme (by decide) hhost htail hsecurity hoptions {} 0 .none).1
    (some 0)

end Opening
end GraphLink
