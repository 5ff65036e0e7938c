/-
# Codecs that lose nothing

A codec is lossless if what it writes of a value is written as it is, the shape makes something of
it that is decoded to the value again, and whatever is decoded from a text is a value that can be
written. Then every value reads back from its text, and so does every value that was read
(`Lossless.read_write`, `Lossless.read_write_of_read`). Lists of values, words and records are
lossless if their parts are.

Key definitions: `Json.Codec.Lossless`, `Json.Codec.ReadsBack`.
Key theorems: `Json.Codec.Lossless.read_write`, `Json.Codec.Lossless.list`,
`Json.Codec.lossless_words`, `Json.Codec.lossless_record`.
-/
import SchemaMap.Proofs.Json.Document
import SchemaMap.Proofs.Json.Shape

namespace SchemaMap
namespace Json
namespace Codec

variable {α : Type} {c : Codec α} {fits : α → Prop}

/-- A codec that loses nothing of the values that fit. -/
structure Lossless (c : Codec α) (fits : α → Prop) : Prop where
  exact : ∀ {x : α}, fits x → (c.encode x).Exact
  reads : ∀ {x : α}, fits x → ∃ w, c.shape.Reads (c.encode x) w ∧ c.decode? w = some x
  fits_of_decoded : ∀ {fuel : Nat} {node : Node} {w : Value} {x : α},
    c.shape.readNode fuel node = .ok w → c.decode? w = some x → fits x

/-- **What is written of a value is read as the value.** -/
theorem Lossless.read_write (h : c.Lossless fits) {x : α} (hx : fits x) :
    c.read (c.write x) = .ok x := by
  obtain ⟨node, hdoc, hvalue⟩ := ofText_compact (h.exact hx)
  obtain ⟨w, hreads, hdecode⟩ := h.reads hx
  have htext : c.shape.readText (c.write x).toList = .ok w := by
    rw [write, String.toList_ofList, Shape.readText, hdoc]
    simp only [hreads _ node (Nat.le_refl _) hvalue]
  rw [read, htext]
  simp only [hdecode]

/-- A value that was read fits. -/
theorem Lossless.fits_of_read (h : c.Lossless fits) {text : String} {x : α}
    (hx : c.read text = .ok x) : fits x := by
  unfold read at hx
  split at hx
  · cases hx
  · rename_i w hw
    split at hx
    · rename_i y hy
      cases hx
      unfold Shape.readText at hw
      simp only at hw
      split at hw
      · cases hw
      · cases hw
      · rename_i v hv _
        cases hw
        exact h.fits_of_decoded hv hy
    · cases hx

/-- A value that was read reads back from what is written of it. -/
theorem Lossless.read_write_of_read (h : c.Lossless fits) {text : String} {x : α}
    (hx : c.read text = .ok x) : c.read (c.write x) = .ok x :=
  h.read_write (h.fits_of_read hx)

/-- The values that fit read back from their texts, and so do all that were read from a text. -/
structure ReadsBack (c : Codec α) (fits : α → Prop) : Prop where
  of_value : ∀ x, fits x → c.read (c.write x) = .ok x
  of_text : ∀ text x, c.read text = .ok x → c.read (c.write x) = .ok x

theorem Lossless.readsBack (h : c.Lossless fits) : c.ReadsBack fits :=
  ⟨fun _ hx => h.read_write hx, fun _ _ hx => h.read_write_of_read hx⟩

/-! ### Lists -/

theorem forall₂_of_mapM {β γ : Type} {f : β → Option γ} : ∀ {xs : List β} {ys : List γ},
    xs.mapM f = some ys → List.Forall₂ (fun x y => f x = some y) xs ys
  | [], ys, h => by
    cases h
    exact .nil
  | x :: xs, ys, h => by
    rw [List.mapM_cons] at h
    obtain ⟨y, hy, h⟩ := Option.bind_eq_some_iff.1 h
    obtain ⟨zs, hzs, h⟩ := Option.bind_eq_some_iff.1 h
    cases h
    exact .cons hy (forall₂_of_mapM hzs)

theorem Lossless.exists_items (h : c.Lossless fits) : ∀ {xs : List α}, (∀ x ∈ xs, fits x) →
    ∃ ws, List.Forall₂ c.shape.Reads (xs.map c.encode) ws ∧ ws.mapM c.decode? = some xs
  | [], _ => ⟨[], .nil, rfl⟩
  | x :: xs, hxs => by
    obtain ⟨hx, hxs⟩ := List.forall_mem_cons.1 hxs
    obtain ⟨w, hw, hdecode⟩ := h.reads hx
    obtain ⟨ws, hws, hmap⟩ := h.exists_items hxs
    refine ⟨w :: ws, .cons hw hws, ?_⟩
    rw [List.mapM_cons, hdecode, hmap]
    rfl

/-- **Lists lose nothing if their items do not.** -/
theorem Lossless.list (h : c.Lossless fits) : c.list.Lossless fun xs => ∀ x ∈ xs, fits x where
  exact := by
    intro xs hxs
    refine .array fun v hv => ?_
    obtain ⟨x, hx, rfl⟩ := List.mem_map.1 hv
    exact h.exact (hxs x hx)
  reads := by
    intro xs hxs
    obtain ⟨ws, hws, hmap⟩ := h.exists_items hxs
    exact ⟨.array ws, reads_list hws, hmap⟩
  fits_of_decoded := by
    intro fuel node w xs hread hdecode
    obtain ⟨n, ws, rfl, hws⟩ := list_traced hread
    have hitems : ws.mapM c.decode? = some xs := hdecode
    have hall := forall₂_of_mapM hitems
    clear hitems hdecode hread
    induction hall with
    | nil => exact fun x hx => absurd hx List.not_mem_nil
    | cons hx _ ih =>
      obtain ⟨⟨node, hnode⟩, hws⟩ := List.forall_mem_cons.1 hws
      exact List.forall_mem_cons.2 ⟨h.fits_of_decoded hnode hx, ih hws⟩

/-! ### Words -/

/-- **Words lose nothing if they are different.** -/
theorem lossless_words {all : List α} {word : α → String} (hall : ∀ x, x ∈ all)
    (hword : ∀ x y, word x = word y → x = y) : (words all word).Lossless fun _ => True where
  exact := fun _ => .string _
  reads := by
    intro x _
    refine ⟨.string (word x), reads_choice (List.mem_map_of_mem (hall x)), ?_⟩
    show all.find? (fun y => word y == word x) = some x
    obtain ⟨y, hy⟩ := Option.isSome_iff_exists.1 (List.find?_isSome.2 ⟨x, hall x, by simp⟩ :
      (all.find? fun y => word y == word x).isSome = true)
    have hxy : word y = word x := by simpa using List.find?_some hy
    rw [hy, hword y x hxy]
  fits_of_decoded := fun _ _ => trivial

/-! ### Records -/

/-- **Records lose nothing** if their members stand in the order of the fields, those that are
left out have the value of a missing field, and what is decoded from fields that were read fits. -/
theorem lossless_record {name : String} {fields : List (String × Shape × Option Value)}
    (members : α → List (String × Value)) (hshape : c.shape = .record name fields)
    (hn : (fields.map (·.1)).Nodup) (hencode : ∀ x, c.encode x = .object (members x))
    (hexact : ∀ x, fits x → ∀ m ∈ members x, m.2.Exact)
    (hfilled : ∀ x, fits x → ∃ ws, Filled fields (members x) ws ∧ c.decode? (.object ws) = some x)
    (hfits : ∀ n ws x, (∀ w ∈ ws, Traced (Shape.readNode n) fields w) →
      c.decode? (.object ws) = some x → fits x) : c.Lossless fits where
  exact := by
    intro x hx
    rw [hencode]
    exact .object (hexact x hx)
  reads := by
    intro x hx
    obtain ⟨ws, hws, hdecode⟩ := hfilled x hx
    refine ⟨.object ws, ?_, hdecode⟩
    rw [hencode, hshape]
    exact reads_record hn hws
  fits_of_decoded := by
    intro fuel node w x hread hdecode
    rw [hshape] at hread
    obtain ⟨n, ws, rfl, hws⟩ := record_traced hread
    exact hfits n ws x hws hdecode

end Codec
end Json
end SchemaMap
