import TestReport.Proofs.StockReport

/-!
# Bridge and stock reports

A report in the bridge form has its counters in an object of their own under `aggregated`. Put
beside the other members they make the stock form, and both texts are taken for the same object, so
that they give the same result or fail with the same error
(`JestReport.decode_bridge_eq_decode_flat`). The two forms are found by different searches, and a
member that both levels name is dropped from the counters in both, so it does not matter how the
members are split between the two levels.

The two objects are compared key by key. What is found under a key of an object is what its text has
last under it (`lookup_canonicalObject`), while lifting asks the levels one after the other
(`lookup_addMissing`).
-/

namespace TestReport

open Json (Sorted canonicalMembers)

/-! ## What is found under a key -/

theorem canonicalMembers_eq_map (members : List (String × Json)) :
    canonicalMembers members = members.map fun m => (m.1, m.2.canonical) := by
  induction members with
  | nil => rfl
  | cons m members ih => rw [canonicalMembers, ih, List.map_cons]

theorem sorted_canonicalObject (members : List (String × Json)) :
    Sorted (canonicalObject members) :=
  Json.sortMembers_sorted _

/-- An object has under a key what is written last under it. -/
theorem lookup_canonicalObject (members : List (String × Json)) (key : String) :
    (canonicalObject members).lookup key = (members.reverse.lookup key).map Json.canonical := by
  rw [canonicalObject, Json.lookup_sortMembers, canonicalMembers_eq_map, ← List.map_reverse,
    Json.lookup_map_snd]

theorem lookup_canonicalObject_append (members others : List (String × Json)) (key : String) :
    (canonicalObject (members ++ others)).lookup key =
      ((canonicalObject others).lookup key).or ((canonicalObject members).lookup key) := by
  rw [lookup_canonicalObject, lookup_canonicalObject, lookup_canonicalObject, List.reverse_append,
    List.lookup_append, Option.map_or]

theorem lookup_canonicalObject_filter (p : String → Bool) (members : List (String × Json))
    (key : String) :
    (canonicalObject (members.filter fun m => p m.1)).lookup key =
      if p key then (canonicalObject members).lookup key else none := by
  rw [lookup_canonicalObject, lookup_canonicalObject, ← List.filter_reverse, Json.lookup_filter]
  split <;> rfl

theorem lookup_canonicalObject_eq_none {members : List (String × Json)} {key : String}
    (h : key ∉ members.map (·.1)) : (canonicalObject members).lookup key = none :=
  Option.not_isSome_iff_eq_none.1 fun hsome => h (isSome_lookup_canonicalObject.1 hsome)

/-! ## Lifting -/

/-- Members with others put beside them, each one unless its key is taken. -/
def addMissing (added members : List (String × Json)) : List (String × Json) :=
  added.foldl
    (fun ms m => if (ms.lookup m.1).isSome then ms else Json.insert m.1 m.2 ms) members

theorem sorted_addMissing {members : List (String × Json)} (h : Sorted members)
    (added : List (String × Json)) : Sorted (addMissing added members) := by
  refine List.foldlRecOn added _ h fun ms hms m _ => ?_
  split
  · exact hms
  · exact Json.insert_sorted hms

theorem lookup_addMissing (added members : List (String × Json)) (key : String) :
    (addMissing added members).lookup key = (members.lookup key).or (added.lookup key) := by
  unfold addMissing
  induction added generalizing members with
  | nil => simp
  | cons m added ih =>
    rw [List.foldl_cons, ih, List.lookup_cons]
    by_cases heq : key = m.1
    · subst heq
      cases hfound : members.lookup m.1 <;> simp [hfound, Json.lookup_insert_self]
    · rw [beq_eq_false_iff_ne.2 heq]
      split
      · rfl
      · rw [Json.lookup_insert_of_ne heq]

/-- The members of a report in the bridge form. -/
def bridgeMembers (own counters : List (String × Json)) : List (String × Json) :=
  own ++ [("aggregated", .obj counters)]

/-- The members of the stock form of a report in the bridge form: the counters stand beside the
other members, unless their keys are taken. -/
def flatMembers (own counters : List (String × Json)) : List (String × Json) :=
  own ++ counters.filter fun m => m.1 ∉ own.map (·.1)

theorem lookup_flatMembers (own counters : List (String × Json)) (key : String) :
    (canonicalObject (flatMembers own counters)).lookup key =
      ((canonicalObject own).lookup key).or ((canonicalObject counters).lookup key) := by
  rw [flatMembers, lookup_canonicalObject_append,
    lookup_canonicalObject_filter (fun key => key ∉ own.map (·.1))]
  by_cases hkey : key ∈ own.map (·.1)
  · obtain ⟨value, hvalue⟩ := Option.isSome_iff_exists.1 (isSome_lookup_canonicalObject.2 hkey)
    simp [hkey, hvalue]
  · simp [hkey, lookup_canonicalObject_eq_none hkey]

/-- Lifting the counters of a report in the bridge form gives its stock form. -/
theorem liftMembers_bridgeMembers {own : List (String × Json)}
    (hown : "aggregated" ∉ own.map (·.1)) (counters : List (String × Json)) :
    liftMembers "aggregated" (canonicalObject (bridgeMembers own counters)) =
      some (canonicalObject (flatMembers own counters)) := by
  have hbridge : ∀ key, (canonicalObject (bridgeMembers own counters)).lookup key =
      if key = "aggregated" then some (.obj (canonicalObject counters))
      else (canonicalObject own).lookup key := by
    intro key
    rw [bridgeMembers, lookup_canonicalObject_append, lookup_canonicalObject [_]]
    by_cases hkey : key = "aggregated"
    · subst hkey
      rfl
    · simp [hkey, List.lookup_cons, beq_eq_false_iff_ne.2 hkey]
  have hlift : liftMembers "aggregated" (canonicalObject (bridgeMembers own counters)) =
      some (addMissing (canonicalObject counters)
        ((canonicalObject (bridgeMembers own counters)).filter fun m => m.1 != "aggregated")) := by
    rw [liftMembers, hbridge, if_pos rfl]
    rfl
  rw [hlift]
  refine congrArg some (Sorted.eq_of_lookup_eq ?_ (sorted_canonicalObject _) fun key => ?_)
  · exact sorted_addMissing (List.Pairwise.filter _ (sorted_canonicalObject _)) _
  rw [lookup_addMissing, Json.lookup_filter (· != "aggregated"), hbridge, lookup_flatMembers]
  by_cases hkey : key = "aggregated"
  · simp [hkey, lookup_canonicalObject_eq_none hown]
  · simp [hkey]

/-! ## Both forms read alike -/

/-- A text is the text of an object with the given members, in whatever order and spelling. -/
def IsTextOf (text : String) (members : List (String × Json)) : Prop :=
  ∃ written, IsObjectText text.toList written ∧ canonicalObject written = canonicalObject members

/-- The search for a key of the object finds the object, if the key is written without escapes. -/
theorem IsTextOf.findObject_eq {text : String} {members : List (String × Json)}
    (h : IsTextOf text members) {marker : String} (hkey : marker ∈ members.map (·.1))
    (hmark : ∃ t, t <:+ text.toList ∧ StartsWithMark marker t) (framework : String) :
    findObject text.toList framework marker = .ok (canonicalObject members) := by
  obtain ⟨written, hwritten, heq⟩ := h
  obtain ⟨t, ht, hmark⟩ := hmark
  rw [← isSome_lookup_canonicalObject, ← heq, isSome_lookup_canonicalObject] at hkey
  rw [← heq, hwritten.findObject_eq hkey ht hmark]

theorem findObject_of_no_mark {text : List Char} {marker : String}
    (h : ¬∃ t, t <:+ text ∧ StartsWithMark marker t) (framework : String) :
    findObject text framework marker = .error (.noPayload framework marker) := by
  have hnone : lastMark? marker 0 text = none := by
    refine Option.eq_none_iff_forall_ne_some.2 fun n hlast => h ?_
    exact exists_of_lastMark? hlast
  unfold findObject
  rw [hnone]

/-- A report in the bridge form and the report in the stock form that has the same members are taken
for the same object, and give the same result or fail with the same error. The keys `aggregated` and
`numTotalTests` are written without escapes, and the first of them has no mark in the text of the
stock form. -/
theorem JestReport.decode_bridge_eq_decode_flat {bridge flat : String}
    {own counters : List (String × Json)} (hown : "aggregated" ∉ own.map (·.1))
    (hcounted : "numTotalTests" ∈ counters.map (·.1))
    (hbridge : IsTextOf bridge (bridgeMembers own counters))
    (hflat : IsTextOf flat (flatMembers own counters))
    (haggregated : ∃ t, t <:+ bridge.toList ∧ StartsWithMark "aggregated" t)
    (htotal : ∃ t, t <:+ flat.toList ∧ StartsWithMark "numTotalTests" t)
    (hplain : ¬∃ t, t <:+ flat.toList ∧ StartsWithMark "aggregated" t) :
    locateReport bridge.toList = .ok (canonicalObject (flatMembers own counters)) ∧
    locateReport flat.toList = .ok (canonicalObject (flatMembers own counters)) ∧
    ∀ (environment : Environment) (options : Options) (now : Instant),
      JestReport.decode environment options bridge now =
        JestReport.decode environment options flat now := by
  have hbridgeKey : "aggregated" ∈ (bridgeMembers own counters).map (·.1) := by
    simp [bridgeMembers]
  have hflatKey : "numTotalTests" ∈ (flatMembers own counters).map (·.1) := by
    rw [← isSome_lookup_canonicalObject, lookup_flatMembers, Option.isSome_or]
    exact Bool.or_eq_true_iff.2 (.inr (isSome_lookup_canonicalObject.2 hcounted))
  have hlocateBridge : locateReport bridge.toList =
      .ok (canonicalObject (flatMembers own counters)) := by
    unfold locateReport
    rw [hbridge.findObject_eq hbridgeKey haggregated]
    dsimp only
    rw [liftMembers_bridgeMembers hown]
  have hlocateFlat : locateReport flat.toList =
      .ok (canonicalObject (flatMembers own counters)) := by
    unfold locateReport
    rw [findObject_of_no_mark hplain, hflat.findObject_eq hflatKey htotal]
  refine ⟨hlocateBridge, hlocateFlat, fun environment options now => ?_⟩
  unfold JestReport.decode
  rw [hlocateBridge, hlocateFlat]

/-- A report of the bridge form whose counters repeat a member of the report itself. -/
def repeatingBridgeOutput : String :=
  "\x7b\"startTime\":5,\"testResults\":[]," ++
  "\"aggregated\":\x7b\"numTotalTests\":2,\"startTime\":7\x7d\x7d"

/-- The same report in the stock form, in another order. -/
def repeatingStockOutput : String :=
  "\x7b \"numTotalTests\" : 2, \"startTime\":5,\"testResults\":[]\x7d"

/-- The member of the report itself counts. -/
theorem JestReport.decode_bridge_eq_decode_flat_repeating :
    JestReport.decode {} {} repeatingBridgeOutput .epoch =
        JestReport.decode {} {} repeatingStockOutput .epoch ∧
      (JestReport.decode {} {} repeatingStockOutput .epoch).toOption.map
        (·.summary.startTime.nano) = some 5000000 := by
  have hbridge : IsTextOf repeatingBridgeOutput
      (bridgeMembers [("startTime", .num (.int 5)), ("testResults", .arr [])]
        [("numTotalTests", .num (.int 2)), ("startTime", .num (.int 7))]) :=
    ⟨_, .of_readValue (by decide +kernel), rfl⟩
  have hflat : IsTextOf repeatingStockOutput
      (flatMembers [("startTime", .num (.int 5)), ("testResults", .arr [])]
        [("numTotalTests", .num (.int 2)), ("startTime", .num (.int 7))]) := by
    have hread : Json.readValue Json.nestingLimit repeatingStockOutput.toList =
        .ok (.obj [("numTotalTests", .num (.int 2)), ("startTime", .num (.int 5)),
          ("testResults", .arr [])], []) := by
      decide +kernel
    exact ⟨_, .of_readValue hread, by decide +kernel⟩
  have hplain : lastMark? "aggregated" 0 repeatingStockOutput.toList = none := by decide +kernel
  refine ⟨(JestReport.decode_bridge_eq_decode_flat (by decide) (by decide) hbridge hflat
    ?_ ?_ ?_).2.2 _ _ _, ?_⟩
  · exact ⟨_, List.drop_suffix 32 _, isSome_markLength?_iff.1 (by decide +kernel)⟩
  · exact ⟨_, List.drop_suffix 2 _, isSome_markLength?_iff.1 (by decide +kernel)⟩
  · rintro ⟨t, ht, hmark⟩
    have hsome := isSome_lastMark? ht hmark
    rw [hplain] at hsome
    cases hsome
  · decide +kernel

end TestReport
