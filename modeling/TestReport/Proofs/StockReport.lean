import TestReport.Jest
import TestReport.Proofs.Search

/-!
# Which object is taken for the report

The stock form of a report is one object with its counters at the top level. The bridge form is
looked for first, and any object that has the key `aggregated` passes for it, so that an object
inside a stock report can be taken for the report. `locateReport_eq_ok_iff` says when a stock report
is taken for itself.

Only the objects inside the report that have the key can come in its way (`rivals`): nothing in a
string can, and of the rivals only the first (`head?_rivals_of_bridge?`). It does come in the way if
its key is written without escapes and an object stands under it, as in the report of a failed test
that `nestedBridgeOutput` is, which is then read as a successful run without tests.
-/

namespace TestReport

open Json (Part ReadError)

/-! ## The text of one object -/

/-- A text is the text of one object, blanks around it aside. -/
def IsObjectText (text : List Char) (members : List (String × Json)) : Prop :=
  ∃ before body after, text = before ++ body ∧ (∀ c ∈ before, Text.isBlank c = true) ∧
    (∀ c ∈ after, Text.isBlank c = true) ∧
    Json.readValue Json.nestingLimit body = .ok (.obj members, after)

theorem IsObjectText.of_readValue {text : List Char} {members : List (String × Json)}
    (h : Json.readValue Json.nestingLimit text = .ok (.obj members, [])) :
    IsObjectText text members :=
  ⟨[], text, [], rfl, nofun, nofun, h⟩

theorem exists_of_readValue_obj {d : Nat} {s after : List Char} {members : List (String × Json)}
    (h : Json.readValue d s = .ok (.obj members, after)) :
    ∃ r, Json.skipSpace s = '\x7b' :: r := by
  unfold Json.readValue at h
  split at h
  · cases h
  next c r hs =>
    rw [hs]
    by_cases hbrace : c = '\x7b'
    · exact ⟨r, by rw [hbrace]⟩
    · rw [if_neg hbrace] at h
      repeat' split at h
      all_goals first | cases h | (obtain ⟨x, -, hx⟩ := Json.bind_eq_ok.1 h; cases hx)

theorem ne_of_isBlank {c : Char} (h : Text.isBlank c = true) :
    c ≠ '"' ∧ c ≠ '\\' ∧ c ≠ 'a' ∧ c ≠ '\x7b' := by
  refine ⟨?_, ?_, ?_, ?_⟩ <;> rintro rfl <;> exact absurd h (by decide)

theorem tidy_of_forall_isBlank {s : List Char} (h : ∀ c ∈ s, Text.isBlank c = true) :
    Json.Tidy .closed s := by
  induction s with
  | nil => trivial
  | cons c s ih =>
    obtain ⟨hc, hs⟩ := List.forall_mem_cons.1 h
    obtain ⟨hquote, hslash, ha, -⟩ := ne_of_isBlank hc
    exact Json.tidy_closed_cons hquote hslash ha (ih hs).outside

/-- The text of an object starts with its brace. -/
theorem IsObjectText.exists_brace {text : List Char} {members : List (String × Json)}
    (h : IsObjectText text members) :
    ∃ before s after, text = before ++ '\x7b' :: s ∧ (∀ c ∈ before, Text.isBlank c = true) ∧
      (∀ c ∈ after, Text.isBlank c = true) ∧
      Json.readValue Json.nestingLimit ('\x7b' :: s) = .ok (.obj members, after) := by
  obtain ⟨before, body, after, rfl, hbefore, hafter, hread⟩ := h
  obtain ⟨spaces, hspaces, hbody⟩ := Json.isSpace_dropWhile_append body
  obtain ⟨r, hr⟩ := exists_of_readValue_obj hread
  refine ⟨before ++ spaces, r, after, ?_, ?_, hafter, ?_⟩
  · rw [List.append_assoc, ← hr, ← hbody]
  · exact List.forall_mem_append.2 ⟨hbefore, fun c hc => Json.isBlank_of_isSpace (hspaces c hc)⟩
  · rwa [Json.readValue_of_skipSpace hr (by decide)] at hread

/-- The search for a key of the object itself, written without escapes, finds the object. -/
theorem IsObjectText.findObject_eq {text : List Char} {members : List (String × Json)}
    (h : IsObjectText text members) {marker : String} (hkey : marker ∈ members.map (·.1))
    {t : List Char} (ht : t <:+ text) (hmark : StartsWithMark marker t) (framework : String) :
    findObject text framework marker = .ok (canonicalObject members) := by
  obtain ⟨before, s, after, rfl, hbefore, -, hread⟩ := h.exists_brace
  have hquote : ∀ c ∈ before ++ ['\x7b'], c ≠ '"' :=
    List.forall_mem_append.2 ⟨fun c hc => (ne_of_isBlank (hbefore c hc)).1,
      List.forall_mem_singleton.2 (by decide)⟩
  have hbrace : ∀ c ∈ before, c ≠ '\x7b' := fun c hc => (ne_of_isBlank (hbefore c hc)).2.2.2
  obtain ⟨n, hn⟩ := Option.isSome_iff_exists.1 (isSome_lastMark? ht hmark)
  have hlast := hn
  rw [List.append_cons, lastMark?_append hquote] at hlast
  obtain ⟨m, -, rfl⟩ := Option.map_eq_some_iff.1 hlast
  have hfirst : candidates (m + (before ++ ['\x7b']).length) (before ++ '\x7b' :: s) =
      ('\x7b' :: s) :: candidates m s := by
    rw [List.length_append, List.length_singleton, ← Nat.add_assoc, Nat.add_right_comm,
      candidates_append hbrace, candidates, if_pos rfl]
  have hfound : markedObject? marker ('\x7b' :: s) = some (canonicalObject members) := by
    rw [markedObject?_eq_owned? hread, owned?, if_pos hkey]
  unfold findObject
  rw [hn]
  simp only [hfirst, List.findSome?_cons, hfound]

/-! ## The search for the bridge form -/

/-- The object that the search for the bridge form finds. -/
def bridge? (text : List Char) : Option (List (String × Json)) :=
  (lastMark? "aggregated" 0 text).bind fun n =>
    (candidates n text).findSome? (markedObject? "aggregated")

/-- Why something before the last mark of the bridge form cannot be read. -/
def bridgeError? (text : List Char) : Option ReadError :=
  (lastMark? "aggregated" 0 text).bind fun n => (candidates n text).findSome? readError?

theorem findObject_aggregated (text : List Char) :
    findObject text "jest" "aggregated" =
      match bridge? text, bridgeError? text with
      | some rival, _ => .ok rival
      | none, some reason => .error (.undecodable "jest" reason)
      | none, none => .error (.noPayload "jest" "aggregated") := by
  unfold findObject bridge? bridgeError?
  cases lastMark? "aggregated" 0 text with
  | none => rfl
  | some n =>
    simp only [Option.bind_some]
    cases (candidates n text).findSome? (markedObject? "aggregated") with
    | some rival => rfl
    | none => cases (candidates n text).findSome? readError? <;> rfl

theorem isLower_aggregated : ∀ c ∈ "aggregated".toList, c.isLower = true :=
  List.all_eq_true.1 (by decide)

/-- The objects inside an object that have the key `aggregated`, in the order of the text. -/
def rivals (members : List (String × Json)) : List (List (String × Json)) :=
  (Json.valuesOfMembers members).filterMap (owned? "aggregated")

section Stock

variable {text : List Char} {members : List (String × Json)} (h : IsObjectText text members)
  (hstock : "aggregated" ∉ members.map (·.1))

include h hstock

theorem objectsIn_eq_rivals : objectsIn "aggregated" text = rivals members := by
  obtain ⟨before, s, after, rfl, hbefore, hafter, hread⟩ := h.exists_brace
  have hbrace : ∀ s : List Char, (∀ c ∈ s, Text.isBlank c = true) → ∀ c ∈ s, c ≠ '\x7b' :=
    fun s hs c hc => (ne_of_isBlank (hs c hc)).2.2.2
  have hnothing : objectsIn "aggregated" after = [] := by
    rw [← List.append_nil after, objectsIn_append (hbrace after hafter)]
    rfl
  rw [objectsIn_append (hbrace before hbefore),
    objectsIn_of_reads (by decide) (Json.reads_of_readValue (Nat.le_refl _) hread)
      (tidy_of_forall_isBlank hafter), hnothing, List.append_nil, Part.values, Json.values,
    List.filterMap_cons, owned?, if_neg hstock]
  rfl

/-- The search for the bridge form finds the first of the rivals, if it finds anything. -/
theorem head?_rivals_of_bridge? {rival : List (String × Json)}
    (hrival : bridge? text = some rival) : (rivals members).head? = some rival := by
  obtain ⟨n, hn, hfound⟩ := Option.bind_eq_some_iff.1 hrival
  obtain ⟨rest, hrest⟩ := candidates_prefix n text
  rw [← objectsIn_eq_rivals h hstock, objectsIn, ← hrest, List.filterMap_append,
    List.head?_append, List.head?_filterMap, hfound]
  rfl

/-- Where letters are not written as escapes, the search finds the first rival if there is one. -/
theorem bridge?_eq_head?_rivals (hletters : SpellsLetters text) :
    bridge? text = (rivals members).head? := by
  cases hrivals : rivals members with
  | nil =>
    refine Option.eq_none_iff_forall_ne_some.2 fun rival hrival => ?_
    have hhead := head?_rivals_of_bridge? h hstock hrival
    rw [hrivals] at hhead
    cases hhead
  | cons rival others =>
    have hmem : rival ∈ objectsIn "aggregated" text := by
      rw [objectsIn_eq_rivals h hstock, hrivals]
      exact List.mem_cons_self
    obtain ⟨c, hc, hfound⟩ := List.mem_filterMap.1 hmem
    obtain ⟨s, rfl, hs⟩ := exists_of_mem_candidates hc
    -- the key of the rival is a mark behind its brace, so the brace is before the last mark
    obtain ⟨t, ht, hmark⟩ := exists_mark_of_markedObject? isLower_aggregated
      (hletters.of_suffix ((List.suffix_cons _ _).trans hs)) hfound
    have hbehind : t <:+ text := ht.trans ((List.suffix_cons _ _).trans hs)
    obtain ⟨n, hn⟩ := Option.isSome_iff_exists.1 (isSome_lastMark? hbehind hmark)
    have hle := length_le_of_lastMark? isLower_aggregated rfl hn hbehind hmark
    have hseen : '\x7b' :: s ∈ candidates n text := by
      have hlength := ht.length_le
      exact mem_candidates hs (by rw [List.length_cons]; omega)
    have hsome : (bridge? text).isSome = true := by
      rw [bridge?, hn, Option.bind_some, List.findSome?_isSome_iff]
      exact ⟨_, hseen, by rw [hfound]; rfl⟩
    obtain ⟨first, hfirst⟩ := Option.isSome_iff_exists.1 hsome
    rw [hfirst, ← head?_rivals_of_bridge? h hstock hfirst, hrivals]

omit hstock in
/-- Where no key is the marker or ends in a quote and the marker, there is no mark. -/
theorem lastMark?_eq_none
    (hkeys : ∀ key ∈ (Json.obj members).keys,
      key ≠ "aggregated" ∧ ¬"\"aggregated".toList <:+ key.toList) :
    lastMark? "aggregated" 0 text = none := by
  refine Option.eq_none_iff_forall_ne_some.2 fun n hlast => ?_
  obtain ⟨before, s, after, rfl, hbefore, hafter, hread⟩ := h.exists_brace
  obtain ⟨t, ht, blanks, rest, hblanks, rfl⟩ := exists_of_lastMark? hlast
  have hquote : ∀ s : List Char, (∀ c ∈ s, Text.isBlank c = true) → ∀ c ∈ s, c ≠ '"' :=
    fun s hs c hc => (ne_of_isBlank (hs c hc)).1
  have hreads := Json.reads_of_readValue (Nat.le_refl _) hread
  rcases hreads.mark isLower_aggregated rfl (tidy_of_forall_isBlank hafter)
    (Json.noColon_of_forall_isBlank hafter) hblanks
    (Json.suffix_of_suffix_append (hquote before hbefore) ht) with ⟨key, hkey, hspells⟩ | hbehind
  · obtain ⟨hne, hends⟩ := hkeys key hkey
    rcases List.suffix_cons_iff.1 hspells with heq | hspells
    · exact hne (String.toList_inj.1 (List.cons.inj heq).2.symm)
    · exact hends hspells
  · exact hquote after hafter '"' (hbehind.subset List.mem_cons_self) rfl

omit hstock in
/-- What is taken for the report, where the report itself is in the stock form. -/
theorem locateReport_of_isObjectText (hcounted : "numTotalTests" ∈ members.map (·.1))
    {t : List Char} (ht : t <:+ text) (hmark : StartsWithMark "numTotalTests" t) :
    locateReport text =
      match bridge? text, bridgeError? text with
      | some rival, _ =>
        .ok ((liftMembers "aggregated" rival).getD (canonicalObject members))
      | none, some reason => .error (.undecodable "jest" reason)
      | none, none => .ok (canonicalObject members) := by
  unfold locateReport
  rw [findObject_aggregated, h.findObject_eq hcounted ht hmark]
  cases bridge? text with
  | some rival =>
    dsimp only
    cases liftMembers "aggregated" rival <;> rfl
  | none => cases bridgeError? text <;> rfl

end Stock

/-! ## When a stock report is found -/

/-- An output that is one object with the counters of the stock form, and without the key of the
bridge form, is taken for that object exactly when the search for the bridge form finds nothing that
can be lifted, and does not fail on the way. What that search finds is the first object inside that
has the key; it is found whenever letters are not written as escapes. So an output without the key
at any depth is always read as it stands, unless a key ends in the quoted word. -/
theorem locateReport_eq_ok_iff {text : List Char} {members : List (String × Json)}
    (h : IsObjectText text members) (hcounted : "numTotalTests" ∈ members.map (·.1))
    (hwritten : ∃ t, t <:+ text ∧ StartsWithMark "numTotalTests" t)
    (hstock : "aggregated" ∉ members.map (·.1)) :
    (locateReport text = .ok (canonicalObject members) ↔
      (∀ rival ∈ bridge? text, ∀ lifted ∈ liftMembers "aggregated" rival,
        lifted = canonicalObject members) ∧
      (bridge? text = none → bridgeError? text = none)) ∧
    (∀ rival ∈ bridge? text, (rivals members).head? = some rival) ∧
    (SpellsLetters text → bridge? text = (rivals members).head?) ∧
    ((∀ key ∈ (Json.obj members).keys,
        key ≠ "aggregated" ∧ ¬"\"aggregated".toList <:+ key.toList) →
      locateReport text = .ok (canonicalObject members)) := by
  obtain ⟨t, ht, hmark⟩ := hwritten
  have hlocate := locateReport_of_isObjectText h hcounted ht hmark
  refine ⟨?_, fun rival => head?_rivals_of_bridge? h hstock, bridge?_eq_head?_rivals h hstock, ?_⟩
  · rw [hlocate]
    cases hbridge : bridge? text with
    | some rival => cases hlifted : liftMembers "aggregated" rival <;> simp [hlifted]
    | none => cases bridgeError? text <;> simp
  · intro hkeys
    have hnone := lastMark?_eq_none h hkeys
    rw [hlocate, bridge?, bridgeError?, hnone]
    rfl

/-- A report with a title that quotes the bridge form. -/
def quotedBridgeOutput : String :=
  "\x7b\"numTotalTests\":1,\"title\":\"\x7b\\\"aggregated\\\":0\x7d\"\x7d"

/-- Such a title does not matter. -/
theorem locateReport_quotedBridgeOutput :
    locateReport quotedBridgeOutput.toList =
      .ok [("numTotalTests", .num (.int 1)), ("title", .str "\x7b\"aggregated\":0\x7d")] := by
  have hread : Json.readValue Json.nestingLimit quotedBridgeOutput.toList =
      .ok (.obj [("numTotalTests", .num (.int 1)), ("title", .str "\x7b\"aggregated\":0\x7d")],
        []) := by
    decide +kernel
  refine (locateReport_eq_ok_iff (.of_readValue hread) (by decide +kernel) ?_
    (by decide +kernel)).2.2.2 ?_
  · exact ⟨_, List.drop_suffix 1 _, isSome_markLength?_iff.1 (by decide +kernel)⟩
  · decide +kernel

/-- A Jest report of a failed test, where a matcher was given an object of the bridge form. -/
def nestedBridgeOutput : String :=
  "\x7b\"numTotalTests\":1,\"testResults\":[\x7b\"assertionResults\":[" ++
  "\x7b\"title\":\"t\",\"status\":\"failed\",\"failureDetails\":[" ++
  "\x7b\"matcherResult\":\x7b\"actual\":\x7b\"aggregated\":\x7b\x7d\x7d\x7d\x7d]\x7d]\x7d]\x7d"

/-- That object is taken for the report, and the failed run counts as a successful one. -/
theorem locateReport_nestedBridgeOutput :
    ∃ members, IsObjectText nestedBridgeOutput.toList members ∧
      "numTotalTests" ∈ members.map (·.1) ∧
      (∃ t, t <:+ nestedBridgeOutput.toList ∧ StartsWithMark "numTotalTests" t) ∧
      "aggregated" ∉ members.map (·.1) ∧
      locateReport nestedBridgeOutput.toList ≠ .ok (canonicalObject members) ∧
      (JestReport.decode {} {} nestedBridgeOutput .epoch).toOption.map (·.summary.success) =
        some true := by
  have hread : Json.readValue Json.nestingLimit nestedBridgeOutput.toList =
      .ok (.obj [("numTotalTests", .num (.int 1)), ("testResults", .arr [.obj [
        ("assertionResults", .arr [.obj [("title", .str "t"), ("status", .str "failed"),
          ("failureDetails", .arr [.obj [("matcherResult",
            .obj [("actual", .obj [("aggregated", .obj [])])])]])]])]])], []) := by
    decide +kernel
  have hlocate : locateReport nestedBridgeOutput.toList = .ok [] := by decide +kernel
  refine ⟨_, .of_readValue hread, by decide +kernel, ?_, by decide +kernel, ?_, ?_⟩
  · exact ⟨_, List.drop_suffix 1 _, isSome_markLength?_iff.1 (by decide +kernel)⟩
  · rw [hlocate]
    decide +kernel
  · unfold JestReport.decode
    rw [hlocate]
    decide +kernel

end TestReport
