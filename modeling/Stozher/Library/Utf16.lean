import Mathlib.Data.List.Sort
import Mathlib.Data.String.Basic

namespace Stozher.Library.Text

/-- The UTF-16 code units of a character. -/
def utf16 (c : Char) : List Nat :=
  if c.toNat < 0x10000 then [c.toNat]
  else [0xd800 + (c.toNat - 0x10000) / 0x400, 0xdc00 + (c.toNat - 0x10000) % 0x400]

def encodeUtf16 (text : String) : List Nat :=
  text.toList.flatMap utf16

def bigEndian (unit : Nat) : List Nat :=
  [unit / 256, unit % 256]

/-- The octets of the code units, the high one first. -/
def encodeUtf16be (text : String) : List Nat :=
  (encodeUtf16 text).flatMap bigEndian

theorem char_range (c : Char) : c.toNat < 0xd800 ∨ 0xdfff < c.toNat ∧ c.toNat < 0x110000 := by
  have valid := c.valid
  unfold UInt32.isValidChar Nat.isValidChar at valid
  exact valid

theorem utf16_lt (c : Char) : ∀ unit ∈ utf16 c, unit < 0x10000 := by
  intro unit member
  have range := char_range c
  unfold utf16 at member
  split at member
  · rw [List.mem_singleton] at member
    omega
  · simp only [List.mem_cons, List.not_mem_nil, or_false] at member
    omega

/-- A character's units say where it ends. -/
theorem utf16_append {c d : Char} {rest others : List Nat} (same : utf16 c ++ rest = utf16 d ++ others) :
    c = d ∧ rest = others := by
  have first := char_range c
  have second := char_range d
  have ofNat : c.toNat = d.toNat → c = d := fun equal => Char.toNat_inj.mp equal
  unfold utf16 at same
  split at same
  · split at same
    · simp only [List.cons_append, List.nil_append, List.cons.injEq] at same
      exact ⟨ofNat same.1, same.2⟩
    · simp only [List.cons_append, List.nil_append, List.cons.injEq] at same
      omega
  · split at same
    · simp only [List.cons_append, List.nil_append, List.cons.injEq] at same
      omega
    · simp only [List.cons_append, List.nil_append, List.cons.injEq] at same
      exact ⟨ofNat (by omega), same.2.2⟩

theorem encodeUtf16_injective {first second : String} (same : encodeUtf16 first = encodeUtf16 second) :
    first = second := by
  have chars : ∀ {cs ds : List Char}, cs.flatMap utf16 = ds.flatMap utf16 → cs = ds := by
    intro cs
    induction cs with
    | nil =>
        intro ds equal
        cases ds with
        | nil => rfl
        | cons d rest =>
            rw [List.flatMap_nil, List.flatMap_cons] at equal
            have none := (List.append_eq_nil_iff.mp equal.symm).1
            unfold utf16 at none
            split at none <;> cases none
    | cons c rest ih =>
        intro ds equal
        cases ds with
        | nil =>
            rw [List.flatMap_nil, List.flatMap_cons] at equal
            have none := (List.append_eq_nil_iff.mp equal).1
            unfold utf16 at none
            split at none <;> cases none
        | cons d others =>
            rw [List.flatMap_cons, List.flatMap_cons] at equal
            obtain ⟨rfl, tails⟩ := utf16_append equal
            rw [ih tails]
  exact String.toList_injective (chars same)

theorem encodeUtf16_lt (text : String) : ∀ unit ∈ encodeUtf16 text, unit < 0x10000 := by
  intro unit member
  obtain ⟨c, _, within⟩ := List.mem_flatMap.mp member
  exact utf16_lt c unit within

/-- Code units and their octets order texts alike. -/
theorem bigEndian_lt_iff {first second : List Nat} (units : ∀ unit ∈ second, unit < 0x10000) :
    first.flatMap bigEndian < second.flatMap bigEndian ↔ first < second := by
  induction first generalizing second with
  | nil =>
      cases second with
      | nil => simp
      | cons unit rest => simp [bigEndian]
  | cons unit rest ih =>
      cases second with
      | nil => simp
      | cons other others =>
          have tails := ih fun each member => units each (List.mem_cons_of_mem _ member)
          have small := units other List.mem_cons_self
          rw [List.flatMap_cons, List.flatMap_cons]
          unfold bigEndian at tails ⊢
          rw [List.cons_append, List.cons_append, List.nil_append, List.cons_append, List.cons_append, List.nil_append,
            List.cons_lt_cons_iff, List.cons_lt_cons_iff, List.cons_lt_cons_iff, tails]
          constructor
          · intro less
            rcases less with high | ⟨sameHigh, low | ⟨sameLow, rest⟩⟩
            · left
              omega
            · left
              omega
            · exact .inr ⟨by omega, rest⟩
          · intro less
            rcases less with below | ⟨rfl, rest⟩
            · by_cases high : unit / 256 = other / 256
              · exact .inr ⟨high, .inl (by omega)⟩
              · left
                omega
            · exact .inr ⟨rfl, .inr ⟨rfl, rest⟩⟩

section

variable {α β : Type}

/-- A list in the order of its keys. Equal keys stay as they stand. -/
def sortBy (key : α → List Nat) (items : List α) : List α :=
  items.insertionSort fun a b => key a ≤ key b

theorem sortBy_perm (key : α → List Nat) (items : List α) : (sortBy key items).Perm items :=
  List.perm_insertionSort _ items

theorem map_sortBy {key : α → List Nat} {other : β → List Nat} (f : α → β) (same : ∀ a, other (f a) = key a)
    (items : List α) : (sortBy key items).map f = sortBy other (items.map f) := by
  unfold sortBy
  apply List.map_insertionSort
  intro a _ b _
  rw [same, same]

theorem sortBy_congr {key other : α → List Nat} (same : ∀ a b, key a ≤ key b ↔ other a ≤ other b) (items : List α) :
    sortBy key items = sortBy other items := by
  have mapped := @List.map_insertionSort α α (fun a b => key a ≤ key b) (fun a b => other a ≤ other b) _ _ id items
    fun a _ b _ => same a b
  rw [List.map_id, List.map_id] at mapped
  exact mapped

/-- Lists of the same items, with a key for each, are put in the same order. -/
theorem sortBy_eq_of_perm {key : α → List Nat} {items others : List α} (perm : items.Perm others)
    (distinct : ∀ a ∈ items, ∀ b ∈ items, key a = key b → a = b) : sortBy key items = sortBy key others := by
  have sorted : ∀ list : List α, (sortBy key list).Pairwise fun a b => key a ≤ key b := by
    intro list
    have total : Std.Total fun a b : α => key a ≤ key b := ⟨fun a b => le_total (key a) (key b)⟩
    have trans : IsTrans α fun a b : α => key a ≤ key b := ⟨fun a b c => le_trans⟩
    exact List.pairwise_insertionSort _ list
  have both : (sortBy key items).Perm (sortBy key others) :=
    (sortBy_perm key items).trans (perm.trans (sortBy_perm key others).symm)
  apply both.eq_of_pairwise _ (sorted items) (sorted others)
  intro a b inFirst inSecond below above
  have first := (sortBy_perm key items).mem_iff.mp inFirst
  have second := perm.mem_iff.mpr ((sortBy_perm key others).mem_iff.mp inSecond)
  exact distinct a first b second (le_antisymm below above)

end

end Stozher.Library.Text
