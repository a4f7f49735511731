import CastAudit.Cache
import CastAudit.Proofs.Disk.Trees

/-!
# Keys and files of a cache

* `keyInput_injective` — the text that is digested tells profile, package, path and content apart, since a zero byte
  ends each of the first three;
* `hexBytes_injective` — so different digests make different keys;
* `parts_fileOf` — the file of a key stands under the key's own name, and the path to it goes up first and then down.
-/

namespace CastAudit.Cache

/-! ## keys -/

/-- The first zero byte parts a text. -/
theorem append_zero_inj {a a' b b' : Text} (ha : 0 ∉ a) (ha' : 0 ∉ a') (h : a ++ 0 :: b = a' ++ 0 :: b') :
    a = a' ∧ b = b' := by
  have hcut := Text.cut?_append_byte ha b
  rw [h, Text.cut?_append_byte ha' b'] at hcut
  simpa [eq_comm] using hcut

theorem keyInput_eq (profile packageId logPath content : Text) :
    keyInput profile packageId logPath content = profile ++ 0 :: (packageId ++ 0 :: (logPath ++ 0 :: content)) := by
  simp [keyInput]

theorem keyInput_injective {profile profile' packageId packageId' logPath logPath' content content' : Text}
    (hp : 0 ∉ profile) (hp' : 0 ∉ profile') (hi : 0 ∉ packageId) (hi' : 0 ∉ packageId') (hl : 0 ∉ logPath)
    (hl' : 0 ∉ logPath')
    (h : keyInput profile packageId logPath content = keyInput profile' packageId' logPath' content') :
    profile = profile' ∧ packageId = packageId' ∧ logPath = logPath' ∧ content = content' := by
  rw [keyInput_eq, keyInput_eq] at h
  obtain ⟨hprofile, h₁⟩ := append_zero_inj hp hp' h
  obtain ⟨hpackage, h₂⟩ := append_zero_inj hi hi' h₁
  obtain ⟨hpath, hcontent⟩ := append_zero_inj hl hl' h₂
  exact ⟨hprofile, hpackage, hpath, hcontent⟩

theorem hexDigit_injective : ∀ a < 16, ∀ b < 16, Text.hexDigit a = Text.hexDigit b → a = b := by decide

theorem hexBytes_injective : Function.Injective Text.hexBytes := by
  intro s t h
  induction s generalizing t with
  | nil =>
    cases t with
    | nil => rfl
    | cons c t => simp [Text.hexBytes] at h
  | cons b s ih =>
    cases t with
    | nil => simp [Text.hexBytes] at h
    | cons c t =>
      simp only [Text.hexBytes, List.flatMap_cons, List.cons_append, List.nil_append, List.cons.injEq] at h
      obtain ⟨hhigh, hlow, hrest⟩ := h
      have hb := b.toNat_lt
      have hc := c.toNat_lt
      have hhigh := hexDigit_injective _ (by omega) _ (by omega) hhigh
      have hlow := hexDigit_injective _ (Nat.mod_lt _ (by decide)) _ (Nat.mod_lt _ (by decide)) hlow
      have hbc : b = c := UInt8.toNat_inj.1 (by omega)
      rw [hbc, ih hrest]

/-! ## files -/

/-- A key is made of hexadecimal digits. -/
def IsKey (key : Text) : Prop := ∃ digest, key = Text.hexBytes digest

theorem isKey_key (profile packageId logPath content : Text) : IsKey (key profile packageId logPath content) :=
  ⟨_, rfl⟩

theorem hexDigit_plain : ∀ n < 16, Text.hexDigit n ≠ Text.slash ∧ Text.hexDigit n ≠ 0x74 := by decide

theorem IsKey.plain {key : Text} (h : IsKey key) : ∀ b ∈ key, b ≠ Text.slash ∧ b ≠ 0x74 := by
  obtain ⟨digest, rfl⟩ := h
  intro b hb
  obtain ⟨c, -, hb⟩ := List.mem_flatMap.1 hb
  have hc := c.toNat_lt
  rcases List.mem_pair.1 hb with rfl | rfl
  · exact hexDigit_plain _ (by omega)
  · exact hexDigit_plain _ (Nat.mod_lt _ (by decide))

/-- The name of a key's file. -/
abbrev fileName (key : Text) : Text := key ++ ".mp"

theorem three_le_length_fileName (key : Text) : 3 ≤ (fileName key).length := by
  rw [List.length_append, show (".mp" : Text).length = 3 by decide]
  exact Nat.le_add_left 3 _

theorem isName_fileName {key : Text} (h : IsKey key) : Path.IsName (fileName key) where
  ne_nil heq := absurd (heq ▸ three_le_length_fileName key) (by decide)
  ne_here heq := absurd (heq ▸ three_le_length_fileName key) (by decide)
  ne_above heq := absurd (heq ▸ three_le_length_fileName key) (by decide)
  no_slash hmem := by
    rcases List.mem_append.1 hmem with hmem | hmem
    · exact (h.plain _ hmem).1 rfl
    · exact absurd hmem (by decide)

theorem fileName_injective {key key' : Text} (h : fileName key = fileName key') : key = key' :=
  List.append_cancel_right h

theorem temporaryName_ne_fileName {key : Text} (h : IsKey key) (k : Nat) :
    Disk.Tree.temporaryName k ≠ fileName key := by
  intro heq
  cases key with
  | nil => cases heq
  | cons b key =>
    have hb : (0x74 : UInt8) = b := (List.cons.inj heq).1
    exact (h.plain b (List.mem_cons_self ..)).2 hb.symm

/-- The parts of the path to a key's file. -/
theorem parts_fileOf {directory : Text} (hd : directory ≠ []) {key : Text} (h : IsKey key) :
    (∃ front, Path.parts (fileOf directory key) = front ++ [fileName key]) ∧
      Path.IsRoute (Path.parts (fileOf directory key)) := by
  have hscans : Path.IsName "scans" := ⟨by decide, by decide, by decide, by decide⟩
  have hnames : ∀ x ∈ (["scans", fileName key] : List Text), Path.IsName x := by
    simpa using ⟨hscans, isName_fileName h⟩
  obtain ⟨front, hparts, hroute⟩ := Path.parts_join hd (by simp) hnames
  have hfile : Path.parts (fileOf directory key) = front ++ [Text.ofString "scans", fileName key] := hparts
  exact ⟨⟨front ++ [Text.ofString "scans"], by simp [hfile]⟩, hfile ▸ hroute⟩

end CastAudit.Cache
