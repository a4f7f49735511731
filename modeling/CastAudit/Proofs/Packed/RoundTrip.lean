import CastAudit.Packed
import Mathlib.Tactic.Common
import Mathlib.Tactic.Ring

/-!
# Packed values are read back

* `Reads read? bytes a` — the reader takes the bytes off the front of any text and gives a value;
* `natOf_bigEndian` — big-endian bytes give their number back;
* `reads_text`, `reads_int`, `reads_word`, `reads_list`, `reads_map` — so do texts, numbers, lists and maps that are
  written, as long as their sizes take at most four bytes.
-/

namespace CastAudit.Packed

/-- The reader takes the bytes off the front, whatever follows. -/
def Reads {α : Type} (read? : Text → Option (α × Text)) (bytes : Text) (a : α) : Prop :=
  ∀ rest, read? (bytes ++ rest) = some (a, rest)

/-- The first size that does not fit into four bytes. -/
abbrev sizeLimit : Nat := 0x100000000

/-! ## numbers -/

theorem length_bigEndian (width n : Nat) : (Digest.bigEndian width n).length = width := by
  simp [Digest.bigEndian]

theorem bigEndian_succ (width n : Nat) :
    Digest.bigEndian (width + 1) n = (n / 256 ^ width % 256).toUInt8 :: Digest.bigEndian width n := by
  simp only [Digest.bigEndian, List.range_succ_eq_map, List.map_cons, List.map_map]
  refine congrArg₂ List.cons rfl (List.map_congr_left fun i _ => ?_)
  rw [Function.comp_apply, Nat.succ_eq_add_one, show width + 1 - 1 - (i + 1) = width - 1 - i by omega]

/-- **Big-endian bytes give their number back**, as far as they can hold it. -/
theorem natOf_bigEndian (width n : Nat) : natOf (Digest.bigEndian width n) = n % 256 ^ width := by
  have hfold : ∀ acc, (Digest.bigEndian width n).foldl (fun m b => m * 256 + b.toNat) acc =
      acc * 256 ^ width + n % 256 ^ width := by
    induction width with
    | zero => simp [Digest.bigEndian, Nat.mod_one]
    | succ width ih =>
      intro acc
      have hbyte : (n / 256 ^ width % 256).toUInt8.toNat = n / 256 ^ width % 256 := by simp
      rw [bigEndian_succ, List.foldl_cons, ih, hbyte, Nat.pow_succ, Nat.mod_mul]
      ring
  rw [natOf, hfold 0, Nat.zero_mul, Nat.zero_add]

theorem natOf_bigEndian_of_lt (width n : Nat) (h : n < 256 ^ width) : natOf (Digest.bigEndian width n) = n := by
  rw [natOf_bigEndian, Nat.mod_eq_of_lt h]

theorem takeBytes?_append (s rest : Text) : takeBytes? s.length (s ++ rest) = some (s, rest) := by
  simp [takeBytes?]

/-- A head byte with a size behind it. -/
theorem takeBytes?_bigEndian (width n : Nat) (rest : Text) :
    takeBytes? width (Digest.bigEndian width n ++ rest) = some (Digest.bigEndian width n, rest) := by
  simpa [length_bigEndian] using takeBytes?_append (Digest.bigEndian width n) rest

theorem toNat_toUInt8 {n : Nat} (h : n < 256) : n.toUInt8.toNat = n := by
  simpa using h

theorem reads_nat {n : Nat} (h : n < 0x10000000000000000) : Reads Head.read? (writeNat n) (.number n) := by
  intro rest
  unfold writeNat
  split
  · next hsmall =>
    have hbyte := toNat_toUInt8 (show n < 256 by omega)
    simp [Head.read?, hbyte, hsmall]
  · split
    · simp [Head.read?, takeBytes?_bigEndian, natOf_bigEndian_of_lt 1 n (by omega)]
    · split
      · simp [Head.read?, takeBytes?_bigEndian, natOf_bigEndian_of_lt 2 n (by omega)]
      · split
        · simp [Head.read?, takeBytes?_bigEndian, natOf_bigEndian_of_lt 4 n (by omega)]
        · simp [Head.read?, takeBytes?_bigEndian, natOf_bigEndian_of_lt 8 n (by omega)]

theorem reads_int {i : Int} (h : 0 ≤ i) (hmax : i ≤ Text.maxInt64) : Reads int? (writeInt i) i := by
  intro rest
  have hmax' : i ≤ 0x7fffffffffffffff := hmax
  have hwrap : Text.wrap64 i = i := by
    rw [Text.wrap64]
    exact Int.bmod_eq_of_le (by omega) (by omega)
  have hnat : ((i.toNat : Nat) : Int) = i := Int.toNat_of_nonneg h
  rw [writeInt, if_pos h, int?, reads_nat (by omega) rest]
  simp [hnat, hwrap]

theorem reads_word {n : Nat} (h : n < 0x10000) : Reads word? (writeWord n) n := by
  intro rest
  have hhead : Head.read? (writeWord n ++ rest) = some (.number n, rest) := by
    have hnumber : natOf (Digest.bigEndian 2 n) = n := natOf_bigEndian_of_lt 2 n h
    simp [writeWord, Head.read?, takeBytes?_bigEndian, hnumber]
  have hwrap : Text.wrap64 n = n := Int.bmod_eq_of_le (by omega) (by omega)
  have hmod : ((n : Int) % 0x10000).toNat = n := by omega
  simp [word?, int?, hhead, hwrap, hmod]

/-! ## texts -/

theorem reads_text {s : Text} (h : s.length < sizeLimit) : Reads text? (writeText s) s := by
  intro rest
  have hhead : Head.read? (writeText s ++ rest) = some (.bytes s.length, s ++ rest) := by
    unfold writeText
    simp only
    split
    · next hsmall =>
      have hbyte := toNat_toUInt8 (show 0xa0 + s.length < 256 by omega)
      have hlow : ¬ 0xa0 + s.length < 0x80 := by omega
      have hmap : ¬ 0xa0 + s.length < 0x90 := by omega
      have hlist : ¬ 0xa0 + s.length < 0xa0 := by omega
      have hbytes : 0xa0 + s.length < 0xc0 := by omega
      simp only [List.cons_append, List.nil_append, Head.read?, hbyte, if_neg hlow, if_neg hmap, if_neg hlist,
        if_pos hbytes, Nat.add_sub_cancel_left]
    · split
      · simp [Head.read?, takeBytes?_bigEndian, natOf_bigEndian_of_lt 1 s.length (by omega)]
      · split
        · simp [Head.read?, takeBytes?_bigEndian, natOf_bigEndian_of_lt 2 s.length (by omega)]
        · simp [Head.read?, takeBytes?_bigEndian, natOf_bigEndian_of_lt 4 s.length (by omega)]
  simp [text?, hhead, takeBytes?_append]

/-! ## lists -/

theorem reads_listHead {n : Nat} (h : n < sizeLimit) : Reads Head.read? (listHead n) (.list n) := by
  intro rest
  unfold listHead
  split
  · next hsmall =>
    have hbyte := toNat_toUInt8 (show 0x90 + n < 256 by omega)
    have hlow : ¬ 0x90 + n < 0x80 := by omega
    have hmap : ¬ 0x90 + n < 0x90 := by omega
    have hlist : 0x90 + n < 0xa0 := by omega
    simp only [List.singleton_append, Head.read?, hbyte, if_neg hlow, if_neg hmap, if_pos hlist,
      Nat.add_sub_cancel_left]
  · split
    · simp [Head.read?, takeBytes?_bigEndian, natOf_bigEndian_of_lt 2 n (by omega)]
    · simp [Head.read?, takeBytes?_bigEndian, natOf_bigEndian_of_lt 4 n (by omega)]

section Structures

variable {α : Type} {read? : α → Text → Option (α × Text)} {write : α → Text} {blank : α}

/-- Structures read over blank ones come in their order. -/
theorem reads_elements {xs : List α} (h : ∀ x ∈ xs, Reads (read? blank) (write x) x) : ∀ found : List α,
    Reads (elements? read? blank xs.length [] found) (xs.flatMap write) (found.reverse ++ xs) := by
  induction xs with
  | nil =>
    intro found rest
    simp [elements?]
  | cons x xs ih =>
    intro found rest
    rw [List.forall_mem_cons] at h
    have hx := h.1 (xs.flatMap write ++ rest)
    have hxs := ih h.2 (x :: found) rest
    simp only [List.length_cons, List.flatMap_cons, List.append_assoc, elements?, List.headD_nil, hx, Option.bind_eq_bind,
      Option.bind_some, List.tail_nil, hxs, List.reverse_cons, List.singleton_append]

/-- **Lists are read back** if their elements are. -/
theorem reads_list {xs : List α} (hsize : xs.length < sizeLimit) (h : ∀ x ∈ xs, Reads (read? blank) (write x) x) :
    Reads (list? read? blank []) (writeList write (some xs)) (some xs) := by
  intro rest
  have hxs := reads_elements h [] rest
  simp [list?, writeList, reads_listHead hsize (xs.flatMap write ++ rest), hxs]

/-! ## maps -/

/-- A value that one of the readers takes into a structure. -/
structure Takes (readers : List (FieldReader α)) (a : α) (field : String × Text) (a' : α) : Prop where
  short : (field.1 : Text).length < sizeLimit
  read : ∃ r, readers.find? (fun r => r.name == (field.1 : Text)) = some r ∧ Reads (r.read? a) field.2 a'

/-- The structures that named values lead to, one after the other. -/
inductive Takings (readers : List (FieldReader α)) : α → List (String × Text) → α → Prop where
  | nil (a : α) : Takings readers a [] a
  | cons {a a' a'' : α} {field : String × Text} {fields : List (String × Text)} (first : Takes readers a field a')
      (others : Takings readers a' fields a'') : Takings readers a (field :: fields) a''

variable {readers : List (FieldReader α)} {a a' : α} {fields : List (String × Text)}

theorem reads_fields (h : Takings readers a fields a') :
    Reads (fields? readers fields.length a) (fields.flatMap fun f => writeText f.1 ++ f.2) a' := by
  induction h with
  | nil a => exact fun _ => rfl
  | @cons a a' a'' field fields first others ih =>
    intro rest
    obtain ⟨hshort, r, hfind, hread⟩ := first
    have hname := reads_text hshort (field.2 ++ (fields.flatMap (fun f => writeText f.1 ++ f.2) ++ rest))
    have hvalue := hread (fields.flatMap (fun f => writeText f.1 ++ f.2) ++ rest)
    simp only [List.length_cons, List.flatMap_cons, List.append_assoc, fields?, hname, Option.bind_eq_bind,
      Option.bind_some, hfind, hvalue, ih rest]

/-- **Maps are read back** if their values are. -/
theorem reads_map (hcount : fields.length < 16) (h : Takings readers a fields a') :
    Reads (compound? readers blank a) (writeMap fields) a' := by
  intro rest
  have hbyte := toNat_toUInt8 (show 0x80 + fields.length < 256 by omega)
  have hlow : ¬ 0x80 + fields.length < 0x80 := by omega
  have hmap : 0x80 + fields.length < 0x90 := by omega
  have hhead : Head.read? (writeMap fields ++ rest) =
      some (.map fields.length, (fields.flatMap fun f => writeText f.1 ++ f.2) ++ rest) := by
    simp only [writeMap, List.cons_append, Head.read?, hbyte, if_neg hlow, if_pos hmap, Nat.add_sub_cancel_left]
  simp [compound?, hhead, reads_fields h rest]

end Structures

end CastAudit.Packed
