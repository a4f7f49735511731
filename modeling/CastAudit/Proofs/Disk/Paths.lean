import CastAudit.Path
import CastAudit.Proofs.Text.Separators

/-!
# Joined paths

A path that is put together from a directory and some names is clean: it goes up first and then down through
names, the last of which is the last name given.

* `IsName part` — the part is neither empty nor one of `.` and `..`, and holds no slash;
* `IsRoute parts` — the parts of a path that goes up first and then down;
* `parts_join` — the parts of a joined path, and `name_directory_join` — the directory that holds it has the name before
  the last;
* `mem_of_mem_clean`, `mem_of_mem_name` — no bytes but slashes and full stops are new in a clean path or a name.
-/

namespace CastAudit.Text

/-- A byte of joined texts is one of the separator or of a text. -/
theorem mem_of_mem_join {sep : Text} {b : UInt8} {xs : List Text} (h : b ∈ join sep xs) :
    b ∈ sep ∨ ∃ x ∈ xs, b ∈ x := by
  induction xs with
  | nil => cases h
  | cons x xs ih =>
    cases xs with
    | nil => exact .inr ⟨x, by simp, by simpa [join] using h⟩
    | cons y xs =>
      have hcons : join sep (x :: y :: xs) = x ++ (sep ++ join sep (y :: xs)) := by simp [join]
      rw [hcons, List.mem_append, List.mem_append] at h
      rcases h with hx | hsep | hrest
      · exact .inr ⟨x, by simp, hx⟩
      · exact .inl hsep
      · obtain hsep | ⟨z, hz, hb⟩ := ih hrest
        · exact .inl hsep
        · exact .inr ⟨z, List.mem_cons_of_mem _ hz, hb⟩

end CastAudit.Text

namespace CastAudit.Path

/-! ## parts -/

/-- A part that names something in a directory. -/
structure IsName (x : Text) : Prop where
  ne_nil : x ≠ []
  ne_here : x ≠ here
  ne_above : x ≠ above
  no_slash : Text.slash ∉ x

theorem parts_eq (path : Text) : parts path = List.splitOn Text.slash path := Text.splitOn_byte path Text.slash

theorem parts_append (p q : Text) : parts (p ++ Text.slash :: q) = parts p ++ parts q := by
  rw [parts_eq, parts_eq, parts_eq]
  exact List.splitOn_append_cons_self _ _

theorem parts_of_no_slash {x : Text} (h : Text.slash ∉ x) : parts x = [x] := Text.splitOn_of_not_mem h

/-- Parts that are joined are the parts of the result. -/
theorem parts_join_parts {ps : List Text} (hne : ps ≠ []) (h : ∀ p ∈ ps, Text.slash ∉ p) :
    parts (Text.join [Text.slash] ps) = ps := by
  rw [parts_eq]
  exact List.splitOn_intercalate Text.slash h hne

theorem no_slash_of_mem_parts {path part : Text} (h : part ∈ parts path) : Text.slash ∉ part :=
  Text.not_mem_of_mem_splitOn h

/-! ## clean paths -/

/-- A stack of clean parts, innermost first: names above a number of `..`, of which an absolute path has none. -/
def IsStack (absolute : Bool) (stack : List Text) : Prop :=
  ∃ names ups, stack = names ++ List.replicate ups above ∧ (∀ x ∈ names, IsName x) ∧ (absolute = true → ups = 0)

theorem isStack_pushPart {absolute : Bool} {stack : List Text} (h : IsStack absolute stack) {part : Text}
    (hpart : Text.slash ∉ part) : IsStack absolute (pushPart absolute stack part) := by
  obtain ⟨names, ups, rfl, hnames, hups⟩ := h
  unfold pushPart
  split
  · exact ⟨names, ups, rfl, hnames, hups⟩
  · next hblank =>
    simp only [Bool.or_eq_true, List.isEmpty_iff, beq_iff_eq, not_or] at hblank
    split
    · next habove =>
      obtain rfl : part = above := by simpa using habove
      -- `..` takes the last name off; with no name left it stays, except at the root
      cases names with
      | cons top names =>
        have htop : (top == above) = false := by simpa using (hnames top (List.mem_cons_self ..)).ne_above
        simp only [List.cons_append, htop]
        exact ⟨names, ups, rfl, fun x hx => hnames x (List.mem_cons_of_mem top hx), hups⟩
      | nil =>
        cases ups with
        | zero =>
          cases absolute with
          | true => exact ⟨[], 0, rfl, by simp, fun _ => rfl⟩
          | false => exact ⟨[], 1, rfl, by simp, by simp⟩
        | succ ups =>
          have habs : absolute = false := by
            cases absolute with
            | true => exact absurd (hups rfl) (by simp)
            | false => rfl
          exact ⟨[], ups + 2, by simp [List.replicate_succ], by simp, by simp [habs]⟩
    · next habove =>
      have hname : IsName part := ⟨hblank.1, hblank.2, by simpa using habove, hpart⟩
      exact ⟨part :: names, ups, rfl, List.forall_mem_cons.2 ⟨hname, hnames⟩, hups⟩

theorem isStack_foldl {absolute : Bool} {ps : List Text} (hps : ∀ p ∈ ps, Text.slash ∉ p) : ∀ {stack : List Text},
    IsStack absolute stack → IsStack absolute (ps.foldl (pushPart absolute) stack) := by
  induction ps with
  | nil => exact fun h => h
  | cons p ps ih =>
    intro stack h
    rw [List.forall_mem_cons] at hps
    exact ih hps.2 (isStack_pushPart h hps.1)

theorem foldl_pushPart_names {absolute : Bool} {names : List Text} (h : ∀ x ∈ names, IsName x) : ∀ stack : List Text,
    names.foldl (pushPart absolute) stack = names.reverse ++ stack := by
  induction names with
  | nil => intro stack; rfl
  | cons x names ih =>
    intro stack
    rw [List.forall_mem_cons] at h
    have hpush : pushPart absolute stack x = x :: stack := by
      simp [pushPart, h.1.ne_nil, h.1.ne_here, h.1.ne_above]
    rw [List.foldl_cons, hpush, ih h.2]
    simp

/-- The parts of a path that goes up first and then down through names. -/
def IsRoute (ps : List Text) : Prop :=
  ∃ lead ups names, ps = lead ++ List.replicate ups above ++ names ∧ (∀ p ∈ lead, p = []) ∧ ∀ x ∈ names, IsName x

theorem parts_nil : parts [] = [[]] := rfl

theorem parts_slash_cons (path : Text) : parts (Text.slash :: path) = [] :: parts path := parts_append [] path

/-- The parts of a clean path, from the stack that its parts were folded to. -/
theorem parts_clean {path : Text} {ups : Nat} {names : List Text} (hne : names ≠ []) (hnames : ∀ x ∈ names, IsName x)
    (h : ((parts path).foldl (pushPart (isAbsolute path)) []).reverse = List.replicate ups above ++ names) :
    ∃ lead, (∀ p ∈ lead, p = []) ∧ parts (clean path) = lead ++ List.replicate ups above ++ names := by
  have hbody : parts (Text.join [Text.slash] (List.replicate ups above ++ names)) = List.replicate ups above ++ names := by
    refine parts_join_parts (by simp [hne]) fun p hp => ?_
    rcases List.mem_append.1 hp with hp | hp
    · rw [(List.mem_replicate.1 hp).2]
      decide
    · exact (hnames p hp).no_slash
  have hblank : (Text.join [Text.slash] (List.replicate ups above ++ names)).isEmpty = false := by
    rw [List.isEmpty_eq_false_iff]
    intro hnil
    rw [hnil, parts_nil] at hbody
    obtain ⟨x, xs, rfl⟩ := List.exists_cons_of_ne_nil hne
    have hx : x ∈ [([] : Text)] := hbody ▸ List.mem_append_right _ (List.mem_cons_self ..)
    exact (hnames x (List.mem_cons_self ..)).ne_nil (List.mem_singleton.1 hx)
  rw [clean, h, hblank]
  cases isAbsolute path with
  | true => exact ⟨[[]], by simp, by simpa [parts_slash_cons] using hbody⟩
  | false => exact ⟨[], by simp, by simpa using hbody⟩

/-- **The parts of a joined path.** They are a route that ends with the names given. -/
theorem parts_join {d : Text} (hd : d ≠ []) {names : List Text} (hne : names ≠ []) (h : ∀ x ∈ names, IsName x) :
    ∃ front, parts (join (d :: names)) = front ++ names ∧ IsRoute (front ++ names) := by
  have hjoined : Text.join [Text.slash] (d :: names) = d ++ Text.slash :: Text.join [Text.slash] names := by
    obtain ⟨x, xs, rfl⟩ := List.exists_cons_of_ne_nil hne
    simp [Text.join]
  have hparts : parts (Text.join [Text.slash] (d :: names)) = parts d ++ names := by
    rw [hjoined, parts_append, parts_join_parts hne fun x hx => (h x hx).no_slash]
  have hclean : join (d :: names) = clean (Text.join [Text.slash] (d :: names)) := by
    simp [join, hd]
  -- the directory leaves names above a number of `..`, and the names given come on top
  obtain ⟨inner, ups, hstack, hinner, -⟩ : IsStack (isAbsolute (Text.join [Text.slash] (d :: names)))
      ((parts d).foldl (pushPart (isAbsolute (Text.join [Text.slash] (d :: names)))) []) :=
    isStack_foldl (fun p hp => no_slash_of_mem_parts hp) ⟨[], 0, rfl, by simp, fun _ => rfl⟩
  have hnames : ∀ x ∈ inner.reverse ++ names, IsName x := by
    intro x hx
    rcases List.mem_append.1 hx with hx | hx
    · exact hinner x (List.mem_reverse.1 hx)
    · exact h x hx
  have hfolded : ((parts (Text.join [Text.slash] (d :: names))).foldl
      (pushPart (isAbsolute (Text.join [Text.slash] (d :: names)))) []).reverse =
        List.replicate ups above ++ (inner.reverse ++ names) := by
    rw [hparts, List.foldl_append, hstack, foldl_pushPart_names h]
    simp
  obtain ⟨lead, hlead, hresult⟩ := parts_clean (by simp [hne]) hnames hfolded
  rw [hclean, hresult]
  refine ⟨lead ++ List.replicate ups above ++ inner.reverse, by simp, lead, ups, inner.reverse ++ names, by simp, hlead,
    hnames⟩

theorem join_names {names : List Text} (hne : names ≠ []) (h : ∀ x ∈ names, IsName x) :
    join names = Text.join [Text.slash] names := by
  obtain ⟨x, xs, rfl⟩ := List.exists_cons_of_ne_nil hne
  have hx := h x (List.mem_cons_self ..)
  have hparts : parts (Text.join [Text.slash] (x :: xs)) = x :: xs :=
    parts_join_parts hne fun y hy => (h y hy).no_slash
  obtain ⟨b, x', rfl⟩ := List.exists_cons_of_ne_nil hx.ne_nil
  have hjoined : ∃ rest, Text.join [Text.slash] ((b :: x') :: xs) = b :: rest := by
    cases xs with
    | nil => exact ⟨x', by simp [Text.join]⟩
    | cons y ys => exact ⟨x' ++ Text.slash :: Text.join [Text.slash] (y :: ys), by simp [Text.join]⟩
  obtain ⟨rest, hrest⟩ := hjoined
  have hb : b ≠ Text.slash := fun heq => hx.no_slash (heq ▸ List.mem_cons_self ..)
  have habsolute : isAbsolute (Text.join [Text.slash] ((b :: x') :: xs)) = false := by
    simp [hrest, isAbsolute, hb]
  have hclean : join ((b :: x') :: xs) = clean (Text.join [Text.slash] ((b :: x') :: xs)) := rfl
  rw [hclean, clean]
  simp only [habsolute, hparts, foldl_pushPart_names h, List.append_nil, List.reverse_reverse]
  simp [hrest]

/-! ## the last parts -/

theorem parts_injective : Function.Injective parts := by
  intro path path' h
  rw [parts_eq, parts_eq] at h
  have hjoined : [Text.slash].intercalate (List.splitOn Text.slash path) = path' := by
    rw [h]
    exact List.intercalate_splitOn _
  rw [← hjoined]
  exact (List.intercalate_splitOn _).symm

/-- What stands before the last part of a path. -/
theorem exists_of_parts_concat {path : Text} {ps : List Text} {x : Text} (h : parts path = ps ++ [x]) (hne : ps ≠ []) :
    ∃ before, path = before ++ Text.slash :: x ∧ parts before = ps := by
  have hslash : ∀ p ∈ ps ++ [x], Text.slash ∉ p := fun p hp => no_slash_of_mem_parts (h ▸ hp)
  have hbefore : parts (Text.join [Text.slash] ps) = ps :=
    parts_join_parts hne fun p hp => hslash p (List.mem_append_left _ hp)
  refine ⟨Text.join [Text.slash] ps, parts_injective ?_, hbefore⟩
  rw [h, parts_append, hbefore, parts_of_no_slash (hslash x (by simp))]

theorem name_eq_of_parts {path : Text} {ps : List Text} {x : Text} (h : parts path = ps ++ [x]) (hx : x ≠ []) :
    name path = x := by
  have hslash : Text.slash ∉ x := no_slash_of_mem_parts (h ▸ List.mem_append_right _ (List.mem_singleton.2 rfl))
  -- nothing or a slash stands before it
  obtain ⟨before, rfl, hbefore⟩ : ∃ before, path = before ++ x ∧ before.reverse.takeWhile isNameByte = [] := by
    cases ps with
    | nil => exact ⟨[], parts_injective (h.trans (parts_of_no_slash hslash).symm), rfl⟩
    | cons p ps =>
      obtain ⟨before, rfl, -⟩ := exists_of_parts_concat h (by simp)
      exact ⟨before ++ [Text.slash], by simp, by simp [isNameByte]⟩
  have hname : ∀ b ∈ x.reverse, isNameByte b = true := fun b hb => by
    simpa [isNameByte] using ne_of_mem_of_not_mem (List.mem_reverse.1 hb) hslash
  have hend : Text.dropEnd (before ++ x) (· = Text.slash) = before ++ x := by
    rw [Text.dropEnd_eq, List.rdropWhile_eq_self_iff]
    intro hne
    rw [List.getLast_append_of_ne_nil _ hx]
    simpa using ne_of_mem_of_not_mem (List.getLast_mem hx) hslash
  rw [name, if_neg (by simp [hx])]
  simp only [hend]
  rw [if_neg (by simp [hx]), List.reverse_append, List.takeWhile_append_of_pos hname, hbefore, List.append_nil,
    List.reverse_reverse]

/-- The directory of a path ends with the part before the last, if that is a name. -/
theorem parts_directory {path : Text} {ps : List Text} {d x : Text} (h : parts path = ps ++ [d] ++ [x]) (hd : IsName d) :
    ∃ front, parts (directory path) = front ++ [d] := by
  obtain ⟨before, rfl, hbefore⟩ := exists_of_parts_concat h (by simp)
  have hslash : Text.slash ∉ x := no_slash_of_mem_parts (h ▸ List.mem_append_right _ (List.mem_singleton.2 rfl))
  have hdrop : Text.dropEnd (before ++ Text.slash :: x) isNameByte = before ++ [Text.slash] := by
    have hname : ∀ b ∈ x.reverse, isNameByte b = true := fun b hb => by
      simpa [isNameByte] using ne_of_mem_of_not_mem (List.mem_reverse.1 hb) hslash
    rw [Text.dropEnd, List.reverse_append, List.reverse_cons, List.append_assoc, List.dropWhile_append_of_pos hname]
    simp [isNameByte]
  have hparts : parts (before ++ [Text.slash]) = ps ++ [d] ++ [[]] := by
    rw [parts_append, hbefore, parts_nil]
  obtain ⟨inner, ups, hstack, hinner, -⟩ : IsStack (isAbsolute (before ++ [Text.slash]))
      (ps.foldl (pushPart (isAbsolute (before ++ [Text.slash]))) []) :=
    isStack_foldl (fun p hp => no_slash_of_mem_parts (hbefore ▸ List.mem_append_left [d] hp))
      ⟨[], 0, rfl, by simp, fun _ => rfl⟩
  -- the directory part ends in a slash, which is an empty part and changes nothing
  have hnames : ∀ y ∈ inner.reverse ++ [d], IsName y := by
    intro y hy
    rcases List.mem_append.1 hy with hy | hy
    · exact hinner y (List.mem_reverse.1 hy)
    · exact List.mem_singleton.1 hy ▸ hd
  have hfolded : ((parts (before ++ [Text.slash])).foldl (pushPart (isAbsolute (before ++ [Text.slash]))) []).reverse =
      List.replicate ups above ++ (inner.reverse ++ [d]) := by
    have hpush := @foldl_pushPart_names (isAbsolute (before ++ [Text.slash])) [d] (by simpa using hd)
    rw [hparts, List.foldl_append, List.foldl_append, hstack, hpush]
    simp [pushPart]
  obtain ⟨lead, -, hresult⟩ := parts_clean (by simp) hnames hfolded
  rw [directory, hdrop, hresult]
  exact ⟨lead ++ List.replicate ups above ++ inner.reverse, by simp⟩

/-- **The directory that holds a joined path** has the name that was given for it. -/
theorem name_directory_join {root d x : Text} (hroot : root ≠ []) (hd : IsName d) (hx : IsName x) :
    name (directory (join [root, d, x])) = d ∧ join [root, d, x] ≠ [] := by
  obtain ⟨front, hparts, -⟩ := parts_join hroot (List.cons_ne_nil d [x]) (by simp [hd, hx])
  have hlast : parts (join [root, d, x]) = front ++ [d] ++ [x] := by rw [hparts]; simp
  obtain ⟨front', hdirectory⟩ := parts_directory hlast hd
  refine ⟨name_eq_of_parts hdirectory hd.ne_nil, fun hnil => ?_⟩
  rw [hnil, parts_nil] at hlast
  simpa using congrArg List.length hlast

/-! ## bytes -/

theorem mem_of_mem_pushPart {absolute : Bool} {stack : List Text} {part q : Text} (h : q ∈ pushPart absolute stack part) :
    q = part ∨ q ∈ stack := by
  unfold pushPart at h
  split at h
  · exact .inr h
  · split at h
    · split at h
      · split at h
        · exact List.mem_cons.1 h
        · exact .inr (List.mem_cons_of_mem _ h)
      · split at h
        · cases h
        · exact .inl (List.mem_singleton.1 h)
    · exact List.mem_cons.1 h

theorem mem_of_mem_foldl_pushPart {absolute : Bool} {q : Text} {ps : List Text} : ∀ {stack : List Text},
    q ∈ ps.foldl (pushPart absolute) stack → q ∈ ps ∨ q ∈ stack := by
  induction ps with
  | nil => exact fun h => .inr h
  | cons p ps ih =>
    intro stack h
    rcases ih h with hps | hstack
    · exact .inl (List.mem_cons_of_mem _ hps)
    · rcases mem_of_mem_pushPart hstack with rfl | hstack
      · exact .inl List.mem_cons_self
      · exact .inr hstack

theorem mem_of_mem_clean {path : Text} {b : UInt8} (h : b ∈ clean path) : b ∈ path ∨ b = Text.slash ∨ b = Text.dot := by
  have hbody : b ∈ Text.join [Text.slash] ((parts path).foldl (pushPart (isAbsolute path)) []).reverse →
      b ∈ path ∨ b = Text.slash := by
    intro hb
    rcases Text.mem_of_mem_join hb with hsep | ⟨q, hq, hb⟩
    · exact .inr (List.mem_singleton.1 hsep)
    · rcases mem_of_mem_foldl_pushPart (List.mem_reverse.1 hq) with hq | hq
      · exact .inl ((Text.sublist_of_mem_splitOn hq).mem hb)
      · cases hq
  simp only [clean] at h
  split at h
  · rcases List.mem_cons.1 h with hslash | hb
    · exact .inr (.inl hslash)
    · exact (hbody hb).imp_right .inl
  · split at h
    · exact .inr (.inr (List.mem_singleton.1 h))
    · exact (hbody h).imp_right .inl

theorem mem_of_mem_name {path : Text} {b : UInt8} (h : b ∈ name path) : b ∈ path ∨ b = Text.slash ∨ b = Text.dot := by
  simp only [name] at h
  split at h
  · exact .inr (.inr (List.mem_singleton.1 h))
  · split at h
    · exact .inr (.inl (List.mem_singleton.1 h))
    · have hb := (List.takeWhile_sublist _).mem (List.mem_reverse.1 h)
      exact .inl ((List.rdropWhile_prefix _ _).sublist.mem (List.mem_reverse.1 hb))

theorem mem_of_mem_name_directory {path : Text} {b : UInt8} (h : b ∈ name (directory path)) :
    b ∈ path ∨ b = Text.slash ∨ b = Text.dot := by
  rcases mem_of_mem_name h with h | h
  · rcases mem_of_mem_clean h with h | h
    · exact .inl ((List.rdropWhile_prefix _ _).sublist.mem h)
    · exact .inr h
  · exact .inr h

end CastAudit.Path
