/-!
Contract: decoding every item of a list.

The list decodes when all of its items do, and then item by item.
-/

namespace EventConsole

variable {α β : Type} {decode : α → Option β}

theorem mapM_eq_some_iff {items : List α} {results : List β} :
    items.mapM decode = some results ↔ items.map decode = results.map some := by
  induction items generalizing results with
  | nil => cases results <;> simp
  | cons item rest inductionHypothesis =>
      cases decoded : decode item with
      | none => cases results <;> simp [decoded]
      | some result =>
          have restIff := @inductionHypothesis
          cases restDecoded : rest.mapM decode with
          | none => cases results <;> simp_all
          | some values => cases results <;> simp_all

theorem exists_mapM {items : List α} (decodes : ∀ item ∈ items, (decode item).isSome = true) :
    ∃ results, items.mapM decode = some results := by
  induction items with
  | nil => exact ⟨[], by simp⟩
  | cons item rest inductionHypothesis =>
      rw [List.forall_mem_cons] at decodes
      obtain ⟨result, decoded⟩ := Option.isSome_iff_exists.mp decodes.1
      obtain ⟨results, restDecoded⟩ := inductionHypothesis decodes.2
      exact ⟨result :: results, by simp [decoded, restDecoded]⟩

theorem length_of_mapM {items : List α} {results : List β}
    (decoded : items.mapM decode = some results) : items.length = results.length := by
  have lengths := congrArg List.length (mapM_eq_some_iff.mp decoded)
  simpa using lengths

theorem isSome_mapM_iff {items : List α} :
    (items.mapM decode).isSome = true ↔ ∀ item ∈ items, (decode item).isSome = true := by
  constructor
  · intro decodes item member
    obtain ⟨results, decoded⟩ := Option.isSome_iff_exists.mp decodes
    have isResult : decode item ∈ results.map some := by
      rw [← mapM_eq_some_iff.mp decoded]
      exact List.mem_map_of_mem member
    obtain ⟨result, -, isSome⟩ := List.mem_map.mp isResult
    rw [← isSome]
    rfl
  · intro decodes
    obtain ⟨results, decoded⟩ := exists_mapM decodes
    rw [decoded]
    rfl

theorem mapM_reverse {items : List α} {results : List β}
    (decoded : items.mapM decode = some results) :
    items.reverse.mapM decode = some results.reverse := by
  rw [mapM_eq_some_iff, List.map_reverse, List.map_reverse, mapM_eq_some_iff.mp decoded]

/-- Every result is that of some item. -/
theorem exists_mem_of_mapM {items : List α} {results : List β}
    (decoded : items.mapM decode = some results) {result : β} (member : result ∈ results) :
    ∃ item ∈ items, decode item = some result := by
  have isResult : some result ∈ results.map some := List.mem_map_of_mem member
  rw [← mapM_eq_some_iff.mp decoded] at isResult
  exact List.mem_map.mp isResult

/-- The result at a position is that of the item there. -/
theorem exists_getElem?_of_mapM {items : List α} {results : List β}
    (decoded : items.mapM decode = some results) {i : Nat} {result : β}
    (found : results[i]? = some result) :
    ∃ item, items[i]? = some item ∧ decode item = some result := by
  have isResult : (results.map some)[i]? = some (some result) := by
    rw [List.getElem?_map, found]
    rfl
  rw [← mapM_eq_some_iff.mp decoded, List.getElem?_map] at isResult
  exact Option.map_eq_some_iff.mp isResult

/-- A part of a list decodes to the same part of its results. -/
theorem mapM_drop_take {items : List α} {results : List β}
    (decoded : items.mapM decode = some results) (start count : Nat) :
    ((items.drop start).take count).mapM decode = some ((results.drop start).take count) := by
  have whole := mapM_eq_some_iff.mp decoded
  apply mapM_eq_some_iff.mpr
  rw [List.map_take, List.map_drop, whole, List.map_take, List.map_drop]

end EventConsole
