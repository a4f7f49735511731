import CastAudit.Proofs.Disk.Trees

/-!
# Places by name

Where a path leads depends on the names in it alone, whatever the tree holds: a path that leads anywhere leads to its
place.

* `Path.placeFrom origin parts` — the place that parts lead to;
* `Path.placeFrom_clean`, `Path.placeFrom_directory` — a clean path has the same place, and the directory part of a
  path has the place above it, if the path ends in a name;
* `Tree.Walk.last_eq`, `Tree.follow_free_walk` — a path that can be followed leads to its place.
-/

namespace CastAudit.Path

/-- The place that one part leads to. -/
def stepTo (place : List Text) (part : Text) : List Text :=
  if part = [] ∨ part = here then place else if part = above then place.tail else part :: place

/-- The place that parts lead to. -/
def placeFrom (place : List Text) (ps : List Text) : List Text := ps.foldl stepTo place

@[simp] theorem stepTo_nil (place : List Text) : stepTo place [] = place := by simp [stepTo]

@[simp] theorem stepTo_here (place : List Text) : stepTo place here = place := by simp [stepTo]

@[simp] theorem stepTo_above (place : List Text) : stepTo place above = place.tail := by simp [stepTo]

theorem stepTo_name {x : Text} (hne : x ≠ []) (hhere : x ≠ here) (habove : x ≠ above) (place : List Text) :
    stepTo place x = x :: place := by
  simp [stepTo, hne, hhere, habove]

@[simp] theorem placeFrom_nil (place : List Text) : placeFrom place [] = place := rfl

@[simp] theorem placeFrom_cons (place : List Text) (p : Text) (ps : List Text) :
    placeFrom place (p :: ps) = placeFrom (stepTo place p) ps := rfl

@[simp] theorem placeFrom_append (place : List Text) (ps qs : List Text) :
    placeFrom place (ps ++ qs) = placeFrom (placeFrom place ps) qs := List.foldl_append ..

theorem placeFrom_blank {ps : List Text} (h : ∀ p ∈ ps, p = []) (place : List Text) : placeFrom place ps = place := by
  induction ps with
  | nil => rfl
  | cons p ps ih =>
    rw [List.forall_mem_cons] at h
    rw [placeFrom_cons, h.1, stepTo_nil, ih h.2]

/-! ## clean paths -/

section Clean

variable {absolute : Bool} {origin : List Text}

/-- A part on a stack of clean parts leads on from where the stack leads to. -/
theorem placeFrom_pushPart (horigin : absolute = true → origin = []) {stack : List Text} (h : IsStack absolute stack)
    (part : Text) :
    placeFrom origin (pushPart absolute stack part).reverse = stepTo (placeFrom origin stack.reverse) part := by
  obtain ⟨names, ups, rfl, hnames, hups⟩ := h
  unfold pushPart
  split
  · next hblank =>
    have hstay : part = [] ∨ part = here := by simpa using hblank
    rw [stepTo, if_pos hstay]
  · next hblank =>
    have hne : part ≠ [] ∧ part ≠ here := by simpa using hblank
    split
    · next habove =>
      obtain rfl : part = above := by simpa using habove
      cases names with
      | cons top names =>
        -- the innermost name is taken back
        have htop := hnames top (List.mem_cons_self ..)
        have hkeep : (top == above) = false := by simpa using htop.ne_above
        simp [hkeep, stepTo_name htop.ne_nil htop.ne_here htop.ne_above]
      | nil =>
        cases ups with
        | zero =>
          cases absolute with
          | true => simp [horigin rfl]
          | false => simp
        | succ ups => simp [List.replicate_succ]
    · simp

theorem placeFrom_foldl (horigin : absolute = true → origin = []) {ps : List Text} (hps : ∀ p ∈ ps, Text.slash ∉ p) :
    ∀ {stack : List Text}, IsStack absolute stack →
      placeFrom origin (ps.foldl (pushPart absolute) stack).reverse =
        placeFrom (placeFrom origin stack.reverse) ps := by
  induction ps with
  | nil => exact fun _ => rfl
  | cons p ps ih =>
    intro stack h
    rw [List.forall_mem_cons] at hps
    rw [List.foldl_cons, ih hps.2 (isStack_pushPart h hps.1), placeFrom_pushPart horigin h, placeFrom_cons]

theorem isStack_parts (path : Text) :
    IsStack (isAbsolute path) ((parts path).foldl (pushPart (isAbsolute path)) []) :=
  isStack_foldl (fun _ hp => no_slash_of_mem_parts hp) ⟨[], 0, rfl, by simp, fun _ => rfl⟩

theorem IsStack.part {stack : List Text} (h : IsStack absolute stack) {part : Text} (hpart : part ∈ stack) :
    part ≠ [] ∧ Text.slash ∉ part := by
  obtain ⟨names, ups, rfl, hnames, -⟩ := h
  rcases List.mem_append.1 hpart with hpart | hpart
  · exact ⟨(hnames part hpart).ne_nil, (hnames part hpart).no_slash⟩
  · rw [(List.mem_replicate.1 hpart).2]
    decide

/-- The body of a clean path has the parts of the stack, or one empty part. -/
theorem parts_body {stack : List Text} (h : IsStack absolute stack) :
    parts (Text.join [Text.slash] stack.reverse) = if stack = [] then [[]] else stack.reverse := by
  split
  · next hnil => rw [hnil]; rfl
  · next hne => exact parts_join_parts (by simpa using hne) fun p hp => (h.part (List.mem_reverse.1 hp)).2

theorem placeFrom_body {stack : List Text} (h : IsStack absolute stack) :
    placeFrom origin (parts (Text.join [Text.slash] stack.reverse)) = placeFrom origin stack.reverse := by
  rw [parts_body h]
  split
  · next hnil => simp [hnil]
  · rfl

/-- **A clean path has the same place.** -/
theorem placeFrom_clean {path : Text} (horigin : isAbsolute path = true → origin = []) :
    placeFrom origin (parts (clean path)) = placeFrom origin (parts path) := by
  have hstack := isStack_parts path
  have hplace : placeFrom origin ((parts path).foldl (pushPart (isAbsolute path)) []).reverse =
      placeFrom origin (parts path) :=
    placeFrom_foldl horigin (fun _ hp => no_slash_of_mem_parts hp) ⟨[], 0, rfl, by simp, fun _ => rfl⟩
  have hbody : placeFrom origin (parts (Text.join [Text.slash]
      ((parts path).foldl (pushPart (isAbsolute path)) []).reverse)) = _ := placeFrom_body hstack
  unfold clean
  cases habs : isAbsolute path with
  | true =>
    rw [habs] at hplace hbody
    simp only [if_true, parts_slash_cons, placeFrom_cons, stepTo_nil]
    rw [hbody, hplace]
  | false =>
    rw [habs] at hplace hbody
    simp only [Bool.false_eq_true, if_false]
    split
    · next hempty =>
      rw [List.isEmpty_iff.1 hempty] at hbody
      rw [← hplace, ← hbody]
      rfl
    · rw [hbody, hplace]

theorem head?_join {p : Text} (hp : p ≠ []) (ps : List Text) : (Text.join [Text.slash] (p :: ps)).head? = p.head? := by
  obtain ⟨b, p, rfl⟩ := List.exists_cons_of_ne_nil hp
  cases ps <;> rfl

theorem isAbsolute_clean (path : Text) : isAbsolute (clean path) = isAbsolute path := by
  have hstack := isStack_parts path
  unfold clean
  cases habs : isAbsolute path with
  | true => rfl
  | false =>
    rw [habs] at hstack
    simp only [Bool.false_eq_true, if_false]
    split
    · rfl
    · -- the first part of the body is not empty and holds no slash
      cases hparts : ((parts path).foldl (pushPart false) []).reverse with
      | nil => rfl
      | cons p ps =>
        have hp := hstack.part (List.mem_reverse.1 (hparts ▸ List.mem_cons_self ..))
        have hhead : p.head? ≠ some Text.slash := fun h => hp.2 (List.mem_of_mem_head? h)
        simpa [isAbsolute, head?_join hp.1] using hhead

end Clean

/-! ## directory parts -/

/-- A path is its directory part, up to the last slash, and its last part. -/
theorem exists_last (path : Text) :
    ∃ x, Text.slash ∉ x ∧ path = Text.dropEnd path isNameByte ++ x ∧
      (Text.dropEnd path isNameByte = [] ∨ ∃ front, Text.dropEnd path isNameByte = front ++ [Text.slash]) := by
  refine ⟨path.rtakeWhile isNameByte, fun hmem => ?_, ?_, ?_⟩
  · have := List.mem_rtakeWhile_imp hmem
    simp [isNameByte] at this
  · rw [Text.dropEnd_eq, List.rdropWhile_append_rtakeWhile]
  · by_cases hnil : Text.dropEnd path isNameByte = []
    · exact .inl hnil
    · refine .inr ⟨(Text.dropEnd path isNameByte).dropLast, ?_⟩
      have hlast : (Text.dropEnd path isNameByte).getLast hnil = Text.slash := by
        have hstop : ¬ isNameByte ((Text.dropEnd path isNameByte).getLast hnil) = true :=
          List.rdropWhile_last_not isNameByte path hnil
        simpa [isNameByte] using hstop
      rw [← hlast, List.dropLast_append_getLast]

/-- **The directory part of a path has the place above it**, by the last part of the path. Without a last part it is
the whole path. -/
theorem placeFrom_directory (path : Text) {origin : List Text} (horigin : isAbsolute path = true → origin = []) :
    isAbsolute (directory path) = isAbsolute path ∧
      ∃ x ps, parts path = ps ++ [x] ∧ (x = [] → directory path = clean path) ∧
        placeFrom origin (parts path) = stepTo (placeFrom origin (parts (directory path))) x := by
  obtain ⟨x, hx, hpath, hfront⟩ := exists_last path
  have habs : isAbsolute (Text.dropEnd path isNameByte) = isAbsolute path := by
    rcases hfront with hnil | ⟨front, hfront⟩
    · rw [hnil, List.nil_append] at hpath
      rw [hnil, hpath]
      have hhead : x.head? ≠ some Text.slash := fun h => hx (List.mem_of_mem_head? h)
      simpa [isAbsolute] using hhead
    · conv_rhs => rw [hpath]
      rw [hfront]
      cases front <;> rfl
  have hwhole : x = [] → directory path = clean path := by
    rintro rfl
    rw [List.append_nil] at hpath
    rw [directory, ← hpath]
  refine ⟨(isAbsolute_clean _).trans habs, x, ?_⟩
  rw [directory, placeFrom_clean (by rwa [habs])]
  rcases hfront with hnil | ⟨front, hfront⟩
  · rw [hnil, List.nil_append] at hpath
    have hparts : parts path = [x] := by rw [hpath, parts_of_no_slash hx]
    exact ⟨[], hparts, hwhole, by rw [hparts, hnil]; rfl⟩
  · have hparts : parts path = parts front ++ [x] := by
      conv_lhs => rw [hpath, hfront, List.append_assoc, List.singleton_append, parts_append, parts_of_no_slash hx]
    have hparts' : parts (Text.dropEnd path isNameByte) = parts front ++ [[]] := by
      rw [hfront, parts_append]
      rfl
    refine ⟨parts front, hparts, hwhole, ?_⟩
    rw [hparts, hparts']
    simp

/-- A clean path ends in the last name of a path, if only empty parts follow that name. -/
theorem parts_clean_of_last {path : Text} {front back : List Text} {name : Text} (hname : IsName name)
    (hback : ∀ p ∈ back, p = []) (hparts : parts path = front ++ name :: back) :
    ∃ ps, parts (clean path) = ps ++ [name] := by
  -- empty parts behind the name leave the stack as it is
  have hskip : ∀ stack, back.foldl (pushPart (isAbsolute path)) stack = stack := by
    clear hparts
    induction back with
    | nil => exact fun _ => rfl
    | cons p back ih =>
      intro stack
      rw [List.forall_mem_cons] at hback
      rw [List.foldl_cons, hback.1]
      exact ih hback.2 stack
  obtain ⟨rest, hstack⟩ : ∃ rest, (parts path).foldl (pushPart (isAbsolute path)) [] = name :: rest := by
    rw [hparts, List.foldl_append, List.foldl_cons, hskip]
    refine ⟨front.foldl (pushPart (isAbsolute path)) [], ?_⟩
    simp [pushPart, hname.ne_nil, hname.ne_here, hname.ne_above]
  have hbody : parts (Text.join [Text.slash] (name :: rest).reverse) = rest.reverse ++ [name] := by
    rw [parts_body (hstack ▸ isStack_parts path)]
    simp
  unfold clean
  simp only [hstack]
  cases isAbsolute path with
  | true =>
    simp only [if_true, parts_slash_cons, hbody]
    exact ⟨[] :: rest.reverse, rfl⟩
  | false =>
    simp only [Bool.false_eq_true, if_false]
    split
    · next hempty =>
      rw [List.isEmpty_iff.1 hempty, parts_nil] at hbody
      have hmem : name ∈ [([] : Text)] := by
        rw [hbody]
        simp
      exact absurd (List.mem_singleton.1 hmem) hname.ne_nil
    · exact ⟨rest.reverse, hbody⟩

end CastAudit.Path

namespace CastAudit.Disk.Tree

open CastAudit.Path (placeFrom)

/-- The place of a path. -/
def placeOf (t : Tree) (path : Text) : Place := placeFrom (t.origin path) (Path.parts path)

theorem origin_of_absolute (t : Tree) {path : Text} (h : Path.isAbsolute path = true) : t.origin path = [] := by
  simp [origin, h]

theorem placeOf_directory (t : Tree) (path : Text) :
    ∃ x ps, Path.parts path = ps ++ [x] ∧ (x = [] → Path.directory path = Path.clean path) ∧
      t.placeOf path = Path.stepTo (t.placeOf (Path.directory path)) x := by
  obtain ⟨habs, x, ps, hparts, hwhole, hplace⟩ := Path.placeFrom_directory path t.origin_of_absolute
  have horigin : t.origin (Path.directory path) = t.origin path := by rw [origin, origin, habs]
  refine ⟨x, ps, hparts, hwhole, ?_⟩
  rw [placeOf, hplace, placeOf, horigin]

section Follow

variable {t : Tree} {ps : List Text} {place last : Place} {node n : Node}

theorem Walk.last_eq (h : t.Walk place node ps last n) : last = placeFrom place ps := by
  induction h with
  | stop => rfl
  | stay hpart _ ih => rcases hpart with rfl | rfl <;> simpa using ih
  | up _ ih => simpa using ih
  | down hne hhere habove _ _ _ ih => simpa [Path.stepTo_name hne hhere habove] using ih

theorem Walk.append {mid : Place} {qs : List Text} (h : t.Walk place node ps mid .directory)
    (h' : t.Walk mid .directory qs last n) : t.Walk place node (ps ++ qs) last n := by
  generalize hd : Node.directory = d at h
  induction h with
  | stop => exact hd ▸ h'
  | stay hpart _ ih => exact .stay hpart (ih h' hd)
  | up _ ih => exact .up (ih h' hd)
  | down hne hhere habove hlen hnext _ ih => exact .down hne hhere habove hlen hnext (ih h' hd)

theorem Walk.node?_of_name {x : Text} (hx : Path.IsName x) (h : t.Walk place node (ps ++ [x]) last n) :
    t.node? last = some n := by
  generalize hps : ps ++ [x] = parts at h
  induction h generalizing ps with
  | stop => simp at hps
  | stay hpart _ ih =>
    cases ps with
    | nil =>
      obtain rfl : x = _ := (List.cons.inj hps).1
      exact absurd hpart (not_or.2 ⟨hx.ne_nil, hx.ne_here⟩)
    | cons p ps => exact ih (List.cons.inj hps).2
  | up _ ih =>
    cases ps with
    | nil => exact absurd (List.cons.inj hps).1 hx.ne_above
    | cons p ps => exact ih (List.cons.inj hps).2
  | down _ _ _ _ hnext h ih =>
    cases ps with
    | nil =>
      obtain rfl := (List.cons.inj hps).2
      cases h
      exact hnext
    | cons p ps => exact ih (List.cons.inj hps).2

theorem Walk.last_part (h : t.Walk place .directory ps last n) (hn : n ≠ .directory) :
    ∃ front x, ps = front ++ [x] ∧ x ≠ [] ∧ x ≠ Path.here ∧ x ≠ Path.above := by
  generalize hd : Node.directory = d at h
  induction h with
  | stop => exact absurd hd.symm hn
  | @stay _ _ _ part _ _ _ ih =>
    obtain ⟨front, x, rfl, hx⟩ := ih hn rfl
    exact ⟨part :: front, x, rfl, hx⟩
  | up _ ih =>
    obtain ⟨front, x, rfl, hx⟩ := ih hn rfl
    exact ⟨Path.above :: front, x, rfl, hx⟩
  | @down _ _ next _ part _ hne hhere habove _ _ h ih =>
    by_cases hnext : next = .directory
    · obtain ⟨front, x, rfl, hx⟩ := ih hn hnext.symm
      exact ⟨part :: front, x, rfl, hx⟩
    · obtain ⟨rfl, -, -⟩ := h.eq_of_ne_directory hnext
      exact ⟨[], part, rfl, hne, hhere, habove⟩

/-- A path leads to a free name through the directory that the name is free in; empty parts may follow it. -/
theorem follow_free_walk {parent : Place} {name : Text} (h : t.follow place node ps = .ok (.free parent name)) :
    ∃ front back, ps = front ++ name :: back ∧ (∀ p ∈ back, p = []) ∧ name ≠ [] ∧ name ≠ Path.here ∧
      name ≠ Path.above ∧ name.length ≤ maxName ∧ t.Walk place node front parent .directory := by
  fun_induction follow t place node ps with
  | case1 => cases h
  | case2 => cases h
  | case3 place node part rest hdir hstay ih =>
    obtain rfl : node = .directory := by simpa using hdir
    obtain ⟨front, back, rfl, hback, hne, hhere, habove, hlen, hwalk⟩ := ih h
    exact ⟨part :: front, back, rfl, hback, hne, hhere, habove, hlen, .stay (by simpa using hstay) hwalk⟩
  | case4 place node part rest hdir hstay hup ih =>
    obtain rfl : node = .directory := by simpa using hdir
    obtain rfl : part = Path.above := by simpa using hup
    obtain ⟨front, back, rfl, hback, hne, hhere, habove, hlen, hwalk⟩ := ih h
    exact ⟨Path.above :: front, back, rfl, hback, hne, hhere, habove, hlen, .up hwalk⟩
  | case5 => cases h
  | case6 place node part rest hdir hstay hup hlong next hnext ih =>
    obtain rfl : node = .directory := by simpa using hdir
    have hpart : part ≠ [] ∧ part ≠ Path.here := by simpa using hstay
    obtain ⟨front, back, rfl, hback, hne, hhere, habove, hlen, hwalk⟩ := ih h
    exact ⟨part :: front, back, rfl, hback, hne, hhere, habove, hlen,
      .down hpart.1 hpart.2 (by simpa using hup) (Nat.le_of_not_gt hlong) hnext hwalk⟩
  | case7 place node part rest hdir hstay hup hlong hnext hrest =>
    obtain rfl : node = .directory := by simpa using hdir
    have hpart : part ≠ [] ∧ part ≠ Path.here := by simpa using hstay
    cases h
    exact ⟨[], rest, rfl, by simpa using hrest, hpart.1, hpart.2, by simpa using hup, Nat.le_of_not_gt hlong, .stop⟩
  | case8 => cases h

end Follow

end CastAudit.Disk.Tree
