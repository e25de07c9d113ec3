import Monitoring.State.NameFormat

namespace Monitoring.NameFormat

variable {f : NameFormat} {stored : String}

theorem dropOpening_append (opening cs : List Char) : dropOpening opening (opening ++ cs) = cs := by
  have hopening : opening.isPrefixOf (opening ++ cs) = true :=
    List.isPrefixOf_iff_prefix.mpr (List.prefix_append opening cs)
  rw [dropOpening, if_pos hopening, List.drop_left]

theorem dropEnding_append (ending cs : List Char) : dropEnding ending (cs ++ ending) = cs := by
  have hending : ending.isSuffixOf (cs ++ ending) = true :=
    List.isSuffixOf_iff_suffix.mpr (List.suffix_append cs ending)
  rw [dropEnding, if_pos hending, List.length_append, Nat.add_sub_cancel, List.take_left]

theorem toList_format (f : NameFormat) (name : String) :
    (f.format name).toList = f.opening.toList ++ (name.toList ++ f.ending.toList) := by
  rw [format, String.toList_append, String.toList_append, List.append_assoc]

theorem undo_format (f : NameFormat) (name : String) : f.undo (f.format name) = name := by
  rw [undo, toList_format, dropOpening_append, dropEnding_append, String.ofList_toList]

structure Decorates (f : NameFormat) (stored : String) : Prop where
  opening : f.opening.toList <+: stored.toList
  ending : f.ending.toList <:+ stored.toList.drop f.opening.toList.length

theorem decorates_format (f : NameFormat) (name : String) : f.Decorates (f.format name) := by
  constructor
  · rw [toList_format]
    exact List.prefix_append _ _
  · rw [toList_format, List.drop_left]
    exact List.suffix_append _ _

theorem Decorates.exists_name (h : f.Decorates stored) : ∃ name, f.format name = stored := by
  obtain ⟨⟨rest, hrest⟩, hending⟩ := h
  rw [← hrest, List.drop_left] at hending
  obtain ⟨name, rfl⟩ := hending
  refine ⟨String.ofList name, String.toList_injective ?_⟩
  rw [toList_format, String.toList_ofList, hrest]

/-- Undoing gives every name back from its formatted form. Formatting gives back what was undone
exactly for the formatted forms, and those are the texts that have both ends, one behind the
other. -/
theorem undo_inverts_format (f : NameFormat) :
    (∀ name, f.undo (f.format name) = name) ∧
    (∀ stored, f.format (f.undo stored) = stored ↔ f.Decorates stored) ∧
    ∀ stored, f.Decorates stored ↔ ∃ name, f.format name = stored := by
  have hforms (stored : String) : f.Decorates stored ↔ ∃ name, f.format name = stored := by
    refine ⟨Decorates.exists_name, ?_⟩
    rintro ⟨name, rfl⟩
    exact f.decorates_format name
  refine ⟨f.undo_format, fun stored => ?_, hforms⟩
  rw [hforms]
  constructor
  · intro h
    exact ⟨f.undo stored, h⟩
  · rintro ⟨name, rfl⟩
    rw [f.undo_format]

example : (⟨"ab", "bc"⟩ : NameFormat).undo "abc" = "c" := by decide

end Monitoring.NameFormat
