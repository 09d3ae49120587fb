import GraphLink.Proofs.Connection.Canonical
import GraphLink.Proofs.Text.Escaping
import GraphLink.Proofs.Uri.Place

/-! # The routing context in a query

    The query of a URI is encoded when the URI is read, and decoded when its pairs are.  A pair ends
    at `&` and a key at `=`, and neither is encoded nor written by the encoder, so the encoded query
    is cut where the query was (`pieces_encode`, `decodePiece_encode`); and each part is decoded as
    it would have been before (`decodePart_encode`, from `Escapes.decode_eq`).  So the pairs are the
    same (`pairs_encode`), and with them the context, or the first pair that is bad
    (`routingContext_of_query`). -/

namespace GraphLink

open GraphLink.Text

-- ── Cutting an encoded text ────────────────────────────────────────

namespace Text

variable {c : Char} {xs : List Char}

/-- A text without the separator only lengthens the first piece. -/
theorem splitOn_append_of_notMem (h : c ∉ xs) (ys : List Char) :
    (xs ++ ys).splitOn c = (ys.splitOn c).modifyHead (xs ++ ·) := by
  rw [List.splitOn_eq_splitOnP, List.splitOn_eq_splitOnP]
  induction xs with
  | nil =>
      rw [List.nil_append]
      cases ys.splitOnP (· == c) <;> rfl
  | cons x xs ih =>
      have hx : ¬ (x == c) = true := by
        intro heq
        exact h (by rw [beq_iff_eq.mp heq]; exact List.mem_cons_self)
      rw [List.cons_append, List.splitOnP_cons_eq_if_modifyHead, if_neg hx,
        ih (fun hmem => h (List.mem_cons_of_mem x hmem))]
      cases ys.splitOnP (· == c) <;> rfl

end Text

namespace Text.Percent

variable {set : Char → Bool} {c : Char}

/-- Whether a character is neither encoded nor part of any escape. -/
structure Separates (set : Char → Bool) (c : Char) : Prop where
  kept : set c = false
  percent : c ≠ '%'
  digit : ∀ d < 16, c ≠ digit d

/-- Encoding brings no separator into a text that has none. -/
theorem Separates.notMem_encode (h : Separates set c) {cs : List Char} (hc : c ∉ cs) :
    c ∉ encode set cs := by
  intro hmem
  have hother : ∀ d ∈ encode set cs, c ≠ d := by
    refine forall_mem_encode h.percent h.digit ?_
    rintro d hd - rfl
    exact hc hd
  exact hother c hmem rfl

/-- **AN ENCODED TEXT IS CUT WHERE THE TEXT WAS.** -/
theorem splitOn_encode (h : Separates set c) (cs : List Char) :
    (encode set cs).splitOn c = (cs.splitOn c).map (encode set) := by
  induction cs with
  | nil => rfl
  | cons d cs ih =>
      by_cases hd : d = c
      · subst hd
        rw [encode_cons, h.kept]
        show (d :: encode set cs).splitOn d = ((d :: cs).splitOn d).map (encode set)
        rw [List.splitOn_eq_splitOnP, List.splitOn_eq_splitOnP,
          List.splitOnP_cons_eq_if_modifyHead, List.splitOnP_cons_eq_if_modifyHead,
          if_pos (beq_self_eq_true d), if_pos (beq_self_eq_true d), ← List.splitOn_eq_splitOnP, ih]
        rfl
      -- Another character is encoded to a text without a separator, which stays in its piece.
      · have hone : c ∉ [d] := fun hmem => hd (List.mem_singleton.mp hmem).symm
        have hfirst : c ∉ encode set [d] := h.notMem_encode hone
        have hcons : encode set (d :: cs) = encode set [d] ++ encode set cs :=
          encode_append set [d] cs
        rw [hcons, splitOn_append_of_notMem hfirst, ih]
        have hsplit : (d :: cs).splitOn c = (cs.splitOn c).modifyHead (d :: ·) :=
          splitOn_append_of_notMem hone cs
        rw [hsplit]
        cases cs.splitOn c with
        | nil => rfl
        | cons piece rest =>
            show (encode set [d] ++ encode set piece) :: rest.map (encode set)
              = encode set (d :: piece) :: rest.map (encode set)
            rw [← encode_append]
            rfl

/-- An encoded text is cut at the same place as the text, and both sides are encoded. -/
theorem cutFirst_encode (h : Separates set c) (cs : List Char) :
    cutFirst c (encode set cs)
      = (cutFirst c cs).map (fun p => (encode set p.1, encode set p.2)) := by
  cases hcut : cutFirst c cs with
  | none => exact cutFirst_eq_none.mpr (h.notMem_encode (cutFirst_eq_none.mp hcut))
  | some p =>
      obtain ⟨rfl, hbefore⟩ := cutFirst_eq_some.mp hcut
      refine cutFirst_eq_some.mpr ⟨?_, h.notMem_encode hbefore⟩
      rw [encode_append, encode_cons, h.kept]
      rfl

end Text.Percent

-- ── Pairs ──────────────────────────────────────────────────────────

namespace Form

open Text.Percent

theorem separates_and : Separates query '&' where
  kept := by decide
  percent := by decide
  digit := by decide

theorem separates_equals : Separates query '=' where
  kept := by decide
  percent := by decide
  digit := by decide

/-- **ENCODING A PART CHANGES NOTHING** in the text that it stands for. -/
theorem decodePart_encode (cs : List Char) : decodePart (encode query cs) = decodePart cs := by
  have hplus : ∀ c, query c = true → (if c = '+' then ' ' else c) = c := by
    intro c hc
    rw [if_neg]
    rintro rfl
    cases hc
  have h := (escapes_encode takesInert_query hplus (by decide) (by decide) cs).decode_eq
  rw [decodePart, decodePart]
  simp only [h]

/-- A piece says the same pair when it is encoded. -/
theorem decodePiece_encode (cs : List Char) : decodePiece (encode query cs) = decodePiece cs := by
  rw [decodePiece, decodePiece, cutFirst_encode separates_equals]
  cases cutFirst '=' cs with
  | none => exact Prod.ext (decodePart_encode cs) rfl
  | some p => exact Prod.ext (decodePart_encode p.1) (decodePart_encode p.2)

/-- Encoding leaves nothing of a text only if there was nothing. -/
theorem isEmpty_encode (set : Char → Bool) (cs : List Char) :
    (encode set cs).isEmpty = cs.isEmpty := by
  cases cs with
  | nil => rfl
  | cons c cs =>
      exact List.isEmpty_eq_false_iff.mpr (encode_ne_nil set (List.cons_ne_nil c cs))

/-- An encoded query has the encoded pieces. -/
theorem pieces_encode (cs : List Char) :
    pieces (encode query cs) = (pieces cs).map (encode query) := by
  have hpiece : (fun piece => !piece.isEmpty) ∘ encode query = fun piece => !piece.isEmpty := by
    funext piece
    show (!(encode query piece).isEmpty) = !piece.isEmpty
    rw [isEmpty_encode]
  rw [pieces, pieces, splitOn_encode separates_and, List.filter_map, hpiece]

/-- **THE PAIRS OF AN ENCODED QUERY** are those of the query. -/
theorem pairs_encode (cs : List Char) : pairs (encode query cs) = pairs cs := by
  rw [pairs, pairs, pieces_encode, List.map_map]
  exact List.map_congr_left (fun piece _ => decodePiece_encode piece)

end Form

-- ── Contexts ───────────────────────────────────────────────────────

/-- What succeeds in two stages succeeds in each. -/
theorem exists_of_bind_eq_ok {ε α β : Type} {x : Except ε α} {f : α → Except ε β} {b : β}
    (h : x >>= f = .ok b) : ∃ a, x = .ok a ∧ f a = .ok b := by
  cases x with
  | error e => cases h
  | ok a => exact ⟨a, rfl, h⟩

namespace RoutingContext

variable {query : String} {context : RoutingContext} {pairs : List (String × String)}
  {pair : String × String} {fault : Fault}

/-- The same fault of another query. -/
def Fault.quoting (query : String) : Fault → Fault
  | .emptyPart key value _ => .emptyPart key value query
  | .reserved => .reserved
  | .duplicate key _ => .duplicate key query

/-- Reading pairs on top of a context stops at a pair, for a fault. -/
inductive StopsAt (query : String) :
    RoutingContext → List (String × String) → String × String → Fault → Prop where
  | here {context : RoutingContext} {pair : String × String} {rest : List (String × String)}
      {fault : Fault} (h : addPair query context pair = .error fault) :
      StopsAt query context (pair :: rest) pair fault
  | later {context context' : RoutingContext} {first pair : String × String}
      {rest : List (String × String)} {fault : Fault}
      (h : addPair query context first = .ok context')
      (hrest : StopsAt query context' rest pair fault) :
      StopsAt query context (first :: rest) pair fault

/-- All pairs can be added, or there is one that reading stops at. -/
theorem foldlM_addPair_cases (query : String) (context : RoutingContext)
    (pairs : List (String × String)) :
    (∃ whole, pairs.foldlM (addPair query) context = .ok whole)
      ∨ ∃ pair fault, StopsAt query context pairs pair fault := by
  induction pairs generalizing context with
  | nil => exact .inl ⟨context, rfl⟩
  | cons first rest ih =>
      cases hfirst : addPair query context first with
      | error fault => exact .inr ⟨first, fault, .here hfirst⟩
      | ok context' =>
          rcases ih context' with ⟨whole, hwhole⟩ | ⟨pair, fault, hrest⟩
          · refine .inl ⟨whole, ?_⟩
            rw [List.foldlM_cons, hfirst]
            exact hwhole
          · exact .inr ⟨pair, fault, .later hfirst hrest⟩

/-- Reading stops with the fault of the pair that it stops at. -/
theorem foldlM_of_stopsAt (h : StopsAt query context pairs pair fault) :
    pairs.foldlM (addPair query) context = .error fault := by
  induction h with
  | here hpair =>
      rw [List.foldlM_cons, hpair]
      rfl
  | later hfirst _ ih =>
      rw [List.foldlM_cons, hfirst]
      exact ih

/-- Which query a pair is from is only told, not asked. -/
theorem addPair_quoting (query other : String) (context : RoutingContext) (pair : String × String) :
    addPair other context pair = (addPair query context pair).mapError (Fault.quoting other) := by
  rw [addPair, addPair]
  split
  · rfl
  · split
    · rfl
    · split <;> rfl

/-- A pair that can be added can be added whatever query it is said to be from. -/
theorem addPair_eq_ok {context' : RoutingContext} (h : addPair query context pair = .ok context')
    (other : String) : addPair other context pair = .ok context' := by
  rw [addPair_quoting query, h]
  rfl

/-- Pairs that can be added give the same context whatever query they are said to be from. -/
theorem foldlM_addPair_eq_ok {whole : RoutingContext}
    (h : pairs.foldlM (addPair query) context = .ok whole) (other : String) :
    pairs.foldlM (addPair other) context = .ok whole := by
  induction pairs generalizing context with
  | nil => exact h
  | cons first rest ih =>
      rw [List.foldlM_cons] at h ⊢
      obtain ⟨context', hfirst, hrest⟩ := exists_of_bind_eq_ok h
      rw [addPair_eq_ok hfirst other]
      exact ih hrest

/-- Reading stops at the same pair whatever query the fault quotes. -/
theorem StopsAt.quoting (h : StopsAt query context pairs pair fault) (other : String) :
    StopsAt other context pairs pair (fault.quoting other) := by
  induction h with
  | here hpair =>
      refine .here ?_
      rw [addPair_quoting query, hpair]
      rfl
  | later hfirst _ ih => exact .later (addPair_eq_ok hfirst other) ih

/-- **TWO QUERIES WITH THE SAME PAIRS** have the same context, or stop at the same pair for the same
    reason, each with its own query in the message. -/
theorem parse_of_pairs {q other : String} (h : Form.pairs other.toList = Form.pairs q.toList) :
    (∃ context, parse q = .ok context ∧ parse other = .ok context)
      ∨ ∃ pair fault, StopsAt q SortedMap.empty (Form.pairs q.toList) pair fault
          ∧ StopsAt other SortedMap.empty (Form.pairs other.toList) pair (fault.quoting other)
          ∧ (parse q).mapError Fault.toError = .error (.configuration fault.message)
          ∧ (parse other).mapError Fault.toError
            = .error (.configuration (fault.quoting other).message) := by
  rw [parse, parse, h]
  rcases foldlM_addPair_cases q SortedMap.empty (Form.pairs q.toList)
    with ⟨context, hcontext⟩ | ⟨pair, fault, hstop⟩
  · exact .inl ⟨context, hcontext, foldlM_addPair_eq_ok hcontext other⟩
  · have hother := hstop.quoting other
    refine .inr ⟨pair, fault, hstop, hother, ?_, ?_⟩
    · rw [foldlM_of_stopsAt hstop]
      rfl
    · rw [foldlM_of_stopsAt hother]
      rfl

end RoutingContext

-- ── A URI with a query ─────────────────────────────────────────────

namespace ConnectionUri

/-- A query without a number sign is read in full. -/
theorem parse_query {cs : List Char} (hkept : ∀ c ∈ cs, c ∉ ['#', '\t', '\r', '\n'])
    (hlast : ∀ c, cs.getLast? = some c → 0x20 < c.toNat) :
    Uri.parse (String.ofList ("neo4j://h?".toList ++ cs))
      = .ok { Uri.ofHost "neo4j" ['h'] none with
              query := some (Percent.encode Percent.query cs) } := by
  have hplain : (Uri.ofHost "neo4j" ['h'] none).IsPlain :=
    Uri.isPlain_ofHost "neo4j" (List.cons_ne_nil _ _) (List.forall_mem_singleton.mpr rfl) none
  have hspells : Uri.Spells "neo4j".toList "neo4j" := Scheme.spells (s := .neo4j) rfl
  -- Nothing of the query is dropped: neither inside it nor at its end.
  have hignored : ∀ c ∈ '?' :: cs, Uri.isIgnored c = false := by
    refine List.forall_mem_cons.mpr ⟨rfl, ?_⟩
    intro c hc
    have hne := hkept c hc
    simp only [List.mem_cons, List.not_mem_nil, or_false, not_or] at hne
    obtain ⟨-, htab, hreturn, hline⟩ := hne
    simp [Uri.isIgnored, htab, hreturn, hline]
  have hend : ∀ c, ('?' :: cs).getLast? = some c → Uri.isEdge c = false := by
    intro c hc
    rw [List.getLast?_cons] at hc
    cases hcs : cs.getLast? with
    | none =>
        rw [hcs] at hc
        cases hc
        rfl
    | some d =>
        rw [hcs] at hc
        exact Uri.isEdge_of_visible (hlast c (hcs.trans hc))
  have hmark : '#' ∉ cs := fun hmem => hkept '#' hmem List.mem_cons_self
  have hfirst : ∀ c, ('?' :: cs).head? = some c → Uri.endsAuthority .plain c = true := by
    rintro c ⟨⟩
    rfl
  have htext : "neo4j://h?".toList ++ cs
      = "neo4j".toList
        ++ ':' :: '/' :: '/' :: ((Uri.ofHost "neo4j" ['h'] none).netloc ++ '?' :: cs) := rfl
  have htail : ('?' :: cs).dropWhile (fun c => !Uri.endsPath c) = '?' :: cs := rfl
  rw [htext, Uri.parse_spelled hplain rfl hspells hfirst hignored hend, Uri.followedBy, htail,
    Uri.readTail_of_query hmark]
  rfl

/-- **THE CONTEXT IN A URI IS THE ONE WRITTEN IN ITS QUERY.**  Whatever a query holds, as long as
    none of it is dropped or taken for a fragment: the URI is accepted, the pairs of the encoded
    query are those of the query, and both have the same context, or are refused for the same pair
    and the same reason. -/
theorem routingContext_of_query {q : String} (hkept : ∀ c ∈ q.toList, c ∉ ['#', '\t', '\r', '\n'])
    (hlast : ∀ c, q.toList.getLast? = some c → 0x20 < c.toNat) :
    ∃ u query, classify ("neo4j://h?" ++ q) = .ok u
      ∧ u = ⟨.neo4j, "h", some query⟩
      ∧ Form.pairs query.toList = Form.pairs q.toList
      ∧ ((∃ context, RoutingContext.parse q = .ok context ∧ u.routingContext = .ok context)
        ∨ ∃ pair fault,
            RoutingContext.StopsAt q SortedMap.empty (Form.pairs q.toList) pair fault
            ∧ RoutingContext.StopsAt query SortedMap.empty (Form.pairs query.toList) pair
                (fault.quoting query)
            ∧ (RoutingContext.parse q).mapError RoutingContext.Fault.toError
                = .error (.configuration fault.message)
            ∧ u.routingContext.mapError RoutingContext.Fault.toError
                = .error (.configuration (fault.quoting query).message)) := by
  have htext : "neo4j://h?" ++ q = String.ofList ("neo4j://h?".toList ++ q.toList) := by
    rw [← String.toList_inj, String.toList_ofList, String.toList_append]
  have hparse := parse_query hkept hlast
  have hpairs : Form.pairs (String.ofList (Percent.encode Percent.query q.toList)).toList
      = Form.pairs q.toList := by
    rw [String.toList_ofList]
    exact Form.pairs_encode q.toList
  refine ⟨_, String.ofList (Percent.encode Percent.query q.toList), ?_, rfl, hpairs, ?_⟩
  · rw [htext]
    exact classify_eq_ok.mpr ⟨_, .neo4j, hparse, ⟨Scheme.ofName?_name .neo4j, rfl, rfl⟩, rfl⟩
  · exact RoutingContext.parse_of_pairs hpairs

/-- The context in a query with a percent sign in front of a letter that is encoded, a byte that is
    no character on its own next to such a letter, a plus sign and an escaped separator. -/
theorem routingContext_of_query_untidy :
    ∃ u query, classify "neo4j://h?a=%é%C3é+%26&b=1=2" = .ok u
      ∧ u = ⟨.neo4j, "h", some query⟩
      ∧ Form.pairs query.toList = [("a", "%é\uFFFDé &"), ("b", "1=2")]
      ∧ u.routingContext = .ok (SortedMap.ofList [("a", "%é\uFFFDé &"), ("b", "1=2")]) := by
  have hpairs : Form.pairs "a=%é%C3é+%26&b=1=2".toList = [("a", "%é\uFFFDé &"), ("b", "1=2")] := by
    rfl
  have hcontext : RoutingContext.parse "a=%é%C3é+%26&b=1=2"
      = .ok (SortedMap.ofList [("a", "%é\uFFFDé &"), ("b", "1=2")]) := by
    rfl
  have hkept : ∀ c ∈ "a=%é%C3é+%26&b=1=2".toList, c ∉ ['#', '\t', '\r', '\n'] := by
    simp
  have hlast : ∀ c, "a=%é%C3é+%26&b=1=2".toList.getLast? = some c → 0x20 < c.toNat := by
    rintro c ⟨⟩
    decide
  obtain ⟨u, query, hclassify, hu, hsame, hread⟩ := routingContext_of_query hkept hlast
  refine ⟨u, query, hclassify, hu, hsame.trans hpairs, ?_⟩
  rcases hread with ⟨context, hok, huri⟩ | ⟨pair, fault, -, -, hfault, -⟩
  · rw [hcontext] at hok
    rw [huri, Except.ok.inj hok]
  · rw [hcontext] at hfault
    cases hfault

end ConnectionUri
end GraphLink
