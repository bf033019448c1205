import TestReport.Proofs.Codec

/-!
# Namespaces and fields

The fields of metadata and the namespaces are written into one object, and are told apart by their
keys alone. They never meet: what is put in as a namespace under the key of a field is refused, and
what is read under it is the field. So no history of inserts changes a field, neither in the
metadata nor in the object as which they are written (`Metadata.insertNamespaces_guarded`).

All inserts of a history together are one insertion of those that are not refused
(`insertNamespaces_eq`), and everything about a history is read off that.
-/

namespace TestReport.Metadata

/-! ## Metadata as they come about -/

/-- Metadata of a run, the metadata that nothing is said about, or metadata that were read. -/
inductive Made : Metadata → Prop
  | ofRun (framework : String) (version : Option String) (environment : Environment) :
    Made (.forRun framework version environment)
  | default : Made {}
  | ofJson {v : Json} {m : Metadata} (h : Metadata.ofJson? v = .ok m) : Made m
  | ofText {text : String} {m : Metadata} (h : Metadata.ofText? text = .ok m) : Made m

theorem wellKeyed_of_map_ofPlain {ε : Type} {x : Except ε Json} {m : Metadata}
    (h : x.map ofPlain = .ok m) : m.WellKeyed := by
  obtain ⟨v, -, rfl⟩ := Json.map_eq_ok.1 h
  exact wellKeyed_ofPlain v

theorem Made.wellKeyed {m : Metadata} (h : m.Made) : m.WellKeyed := by
  cases h with
  | ofRun framework version environment => exact wellKeyed_forRun framework version environment
  | default => exact wellKeyed_of_namespaces_eq_nil rfl
  | ofJson h => exact wellKeyed_of_map_ofPlain h
  | ofText h => exact wellKeyed_of_map_ofPlain h

/-! ## One insert -/

variable {m : Metadata} {key : String}

theorem insertNamespace?_eq_none_iff {value : Json} :
    m.insertNamespace? key value = none ↔ key ∈ metadataKeys := by
  unfold insertNamespace?
  split
  · next hkey => simpa using hkey
  · next hkey => simpa using hkey

/-- Whether some metadata are others with a namespace put in: the namespace is found in them, and
everything else is the same. -/
structure Gains (m after : Metadata) (key : String) (value : Json) : Prop where
  namespace_self : after.namespace? key = some value
  namespace_of_ne : ∀ other, other ≠ key → after.namespace? other = m.namespace? other
  fields_eq : after = { m with namespaces := after.namespaces }

theorem gains_of_insertNamespace? {after : Metadata} {value : Json}
    (h : m.insertNamespace? key value = some after) : m.Gains after key value := by
  unfold insertNamespace? at h
  split at h
  · cases h
  · cases h
    exact
      { namespace_self := Json.lookup_insert_self key value m.namespaces
        namespace_of_ne := fun other hne => Json.lookup_insert_of_ne hne value m.namespaces
        fields_eq := rfl }

/-! ## A history of inserts -/

/-- What is found after a history of inserts is the last that was put in under the key. -/
theorem namespace?_insertNamespaces (h : key ∉ metadataKeys) (history : List (String × Json)) :
    (m.insertNamespaces history).namespace? key =
      (history.reverse.lookup key).or (m.namespace? key) := by
  rw [insertNamespaces_eq, namespace?, namespace?, Json.lookup_insertAll_eq, List.lookup_append,
    ← List.filter_reverse, Json.lookup_filter (fun key => key ∉ metadataKeys), if_pos (by simpa)]

theorem WellKeyed.namespace?_eq_none (h : m.WellKeyed) (hkey : key ∈ metadataKeys) :
    m.namespace? key = none := by
  refine Option.not_isSome_iff_eq_none.1 fun hsome => ?_
  obtain ⟨n, hn, rfl⟩ := List.mem_map.1 (Json.isSome_lookup_iff.1 hsome)
  exact h.not_mem n hn hkey

/-- A field is written as it would be without the inserts. -/
theorem WellKeyed.get?_toJson_insertNamespaces (h : m.WellKeyed) (hkey : key ∈ metadataKeys)
    (history : List (String × Json)) :
    (m.insertNamespaces history).toJson.get? key = m.toJson.get? key := by
  rw [get?_toJson (h.insertNamespaces history) key hkey, get?_toJson h key hkey,
    insertNamespaces_eq]
  rfl

/-- Metadata after any history of inserts. No namespace has the key of a field. One more insert is
refused exactly for such a key, and then changes nothing; otherwise the namespace is put in, and
nothing else is changed. What is found under a key is the last that was put in and not refused, or
else what was there before. And the object as which the metadata are written has no key twice, and
has for every field what it would have without the inserts. -/
theorem insertNamespaces_guarded (h : m.Made) (history : List (String × Json)) :
    let after := m.insertNamespaces history
    (∀ key ∈ after.namespaces.map (·.1), key ∉ metadataKeys) ∧
    (∀ key value, (after.insertNamespace? key value = none ↔ key ∈ metadataKeys) ∧
      (after.insertNamespace? key value = none → after.insertNamespace key value = after) ∧
      ∀ next, after.insertNamespace? key value = some next →
        after.insertNamespace key value = next ∧ after.Gains next key value) ∧
    (∀ key, after.namespace? key =
      if key ∈ metadataKeys then none
      else (history.reverse.lookup key).or (m.namespace? key)) ∧
    after = { m with namespaces := after.namespaces } ∧
    ∃ members, after.toJson = .obj members ∧ (members.map (·.1)).Nodup ∧
      ∀ key ∈ metadataKeys, members.lookup key = m.toJson.get? key := by
  intro after
  have hmade : m.WellKeyed := h.wellKeyed
  have hafter : after.WellKeyed := hmade.insertNamespaces history
  have hfields : after = { m with namespaces := after.namespaces } := by
    unfold after
    rw [insertNamespaces_eq]
  refine ⟨?_, fun key value => ⟨insertNamespace?_eq_none_iff, fun hrefused => ?_,
    fun next hnext => ⟨?_, gains_of_insertNamespace? hnext⟩⟩, fun key => ?_, ?_, ?_⟩
  · intro key hkey
    obtain ⟨n, hn, rfl⟩ := List.mem_map.1 hkey
    exact hafter.not_mem n hn
  · exact insertNamespace_of_mem (insertNamespace?_eq_none_iff.1 hrefused) after value
  · rw [insertNamespace, hnext, Option.getD_some]
  · split
    · next hkey => exact hafter.namespace?_eq_none hkey
    · next hkey => exact namespace?_insertNamespaces hkey history
  · exact hfields
  · refine ⟨_, toJson_eq after, ?_, fun key hkey => ?_⟩
    · exact (after.sorted_fieldMembers.insertAll after.namespaces).nodup_keys
    · exact hmade.get?_toJson_insertNamespaces hkey history

/-- Metadata that were read with a namespace, a history in which that namespace is put in twice more
and one that would shadow the version is refused, and what is found and written after it. -/
theorem insertNamespaces_guarded_shadow :
    let m : Metadata := { version := "1", namespaces := [("jest", .null)] }
    let after := m.insertNamespaces
      [("jest", .bool false), ("version", .str "2"), ("jest", .bool true)]
    Metadata.ofText? "\x7b\"jest\":null,\"version\":\"1\",\"rawOutput\":null\x7d" = .ok m ∧
      after.namespace? "jest" = some (.bool true) ∧
      after.insertNamespace "version" (.str "3") = after ∧
      after.toJson.get? "version" = some (.str "1") := by
  intro m after
  have hread : Metadata.ofText? "\x7b\"jest\":null,\"version\":\"1\",\"rawOutput\":null\x7d" =
      .ok m := by
    decide +kernel
  obtain ⟨-, hone, hfound, -, members, hmembers, -, hfields⟩ := insertNamespaces_guarded
    (.ofText hread) [("jest", .bool false), ("version", .str "2"), ("jest", .bool true)]
  obtain ⟨hrefused, hsame, -⟩ := hone "version" (.str "3")
  refine ⟨hread, hfound "jest", hsame (hrefused.2 (by decide)), ?_⟩
  have hversion : m.toJson.get? "version" = some (.str "1") := by decide +kernel
  exact (congrArg (·.get? "version") hmembers).trans ((hfields _ (by decide)).trans hversion)

end TestReport.Metadata
