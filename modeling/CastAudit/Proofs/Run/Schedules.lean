import CastAudit.Proofs.Run.Pool

/-!
# One worker after the other

Among the orders of the workers' steps there is the one in which each worker starts when the one before it is through.
What holds of a pool under every order therefore holds of serial visits.

* `inTurn visit jobs w` — the visits of some jobs, one after the other;
* `Pool.Turn plan i s` — the workers below an index are through, and the others wait;
* `Pool.exists_follow_inTurn` — an order in which a pool does what the serial visits do.
-/

namespace CastAudit.Run

variable {W : Type}

/-- Visits some jobs one after the other, without any other step in between. -/
def inTurn (visit : Job → Program W Outcome) : List Job → W → List Outcome × W
  | [], w => ([], w)
  | job :: jobs, w =>
    let first := (visit job).run w
    let others := inTurn visit jobs first.2
    (first.1 :: others.1, others.2)

namespace Pool

variable {plan : Plan W} {s : Pool W} {i : Nat}

theorem follow_append (choices choices' : List Nat) :
    s.follow plan (choices ++ choices') = (s.follow plan choices).bind fun s => s.follow plan choices' := by
  induction choices generalizing s with
  | nil => rfl
  | cons i choices ih =>
    rw [List.cons_append, follow, follow, Option.bind_assoc]
    exact congrArg _ (funext fun s => ih)

/-- The workers below an index are through, and all others wait. -/
structure Turn (plan : Plan W) (i : Nat) (s : Pool W) : Prop where
  workers : s.workers.length = plan.jobs.length
  through : ∀ worker ∈ s.workers.take i, worker.isFinished = true
  waiting : ∀ worker ∈ s.workers.drop i, worker = .waiting

theorem turn_start (world : W) : Turn plan 0 (start plan world) where
  workers := by simp [start]
  through := by simp
  waiting worker h := by
    obtain ⟨_, -, rfl⟩ := List.mem_map.1 (List.mem_of_mem_drop h)
    rfl

theorem Turn.worker (h : Turn plan i s) (hi : i < plan.jobs.length) : s.workers[i]? = some .waiting := by
  have hlt : i < s.workers.length := by rwa [h.workers]
  have hmem : s.workers[i] ∈ s.workers.drop i := by
    rw [List.drop_eq_getElem_cons hlt]
    exact List.mem_cons_self ..
  rw [List.getElem?_eq_getElem hlt, h.waiting _ hmem]

/-- Nobody is active between two turns. -/
theorem Turn.mayStart (h : Turn plan i s) (hlimit : 0 < plan.limit) : s.mayStart plan.limit i = true := by
  have hbelow : ∀ worker ∈ s.workers.take i, worker.isWaiting = false ∧ worker.isActive = false := by
    intro worker hw
    have hthrough := h.through worker hw
    cases worker <;> simp_all [Worker.isFinished, Worker.isWaiting, Worker.isActive]
  have habove : ∀ worker ∈ s.workers.drop i, worker.isActive = false := by
    intro worker hw
    rw [h.waiting worker hw]
    rfl
  have hidle : s.workers.countP Worker.isActive = 0 := by
    rw [List.countP_eq_zero]
    intro worker hw
    rw [← List.take_append_drop i s.workers, List.mem_append] at hw
    rcases hw with hw | hw
    · simp [(hbelow worker hw).2]
    · simp [habove worker hw]
  rw [Pool.mayStart, hidle, Bool.and_eq_true, List.all_eq_true]
  exact ⟨fun worker hw => by simp [(hbelow worker hw).1], decide_eq_true hlimit⟩

/-- A program that has begun is brought to its end by its worker alone. -/
theorem exists_follow_running (hi : i < plan.jobs.length) (program : Program W Outcome) :
    ∀ {s : Pool W}, s.workers[i]? = some (.running program) →
      ∃ choices, s.follow plan choices = some { s with
        world := (program.run s.world).2
        workers := s.workers.set i (.running (.done (program.run s.world).1)) } := by
  induction program with
  | done outcome =>
    intro s hw
    obtain ⟨hlt, hget⟩ := List.getElem?_eq_some_iff.1 hw
    refine ⟨[], ?_⟩
    rw [Program.run, ← hget, List.set_getElem_self]
    rfl
  | step next rest ih =>
    intro s hw
    obtain ⟨hlt, -⟩ := List.getElem?_eq_some_iff.1 hw
    have hstep : s.advance plan i =
        some { s with world := next s.world, workers := s.workers.set i (.running (rest s.world)) } := by
      rw [advance, List.getElem?_eq_getElem hi, hw]
    obtain ⟨choices, hchoices⟩ := @ih s.world { s with
      world := next s.world, workers := s.workers.set i (.running (rest s.world)) } (List.getElem?_set_self hlt)
    refine ⟨i :: choices, ?_⟩
    rw [follow, hstep, Option.bind_some, hchoices]
    simp only [List.set_set]
    rfl

/-- A worker whose visit is over is through in three steps. -/
theorem follow_done {outcome : Outcome} {job : Job} (hjob : plan.jobs[i]? = some job)
    (hw : s.workers[i]? = some (.running (.done outcome))) :
    s.follow plan [i, i, i] = some { s with
      slots := s.slots.set i outcome
      count := s.count + 1
      workers := s.workers.set i (.finished (s.count + 1))
      events := s.events ++ [((s.slots.set i outcome).getD i {}).event job (s.count + 1) plan.jobs.length] } := by
  obtain ⟨hlt, -⟩ := List.getElem?_eq_some_iff.1 hw
  simp only [follow, advance, hjob, hw, List.set_set, List.getElem?_set_self hlt, Option.bind_some]

theorem Turn.next (h : Turn plan i s) {s' : Pool W} {number : Nat} (hi : i < plan.jobs.length)
    (hworkers : s'.workers = s.workers.set i (.finished number)) : Turn plan (i + 1) s' := by
  have hlt : i < s.workers.length := by rwa [h.workers]
  rw [← h.workers] at hi
  constructor
  case workers => rw [hworkers, List.length_set, h.workers]
  case through =>
    intro worker hw
    rw [hworkers, List.take_succ_eq_append_getElem (by simpa using hlt), List.take_set_of_le (Nat.le_refl i),
      List.getElem_set_self, List.mem_append, List.mem_singleton] at hw
    rcases hw with hw | rfl
    · exact h.through worker hw
    · rfl
  case waiting =>
    intro worker hw
    rw [hworkers, List.drop_set_of_lt (Nat.lt_succ_self i)] at hw
    apply h.waiting
    rw [List.drop_eq_getElem_cons hlt]
    exact List.mem_cons_of_mem _ hw

/-- **A worker has its turn**: it starts, visits its log, fills its slot, counts and tells of it. -/
theorem Turn.exists_follow (h : Turn plan i s) (hlimit : 0 < plan.limit) {job : Job} (hjob : plan.jobs[i]? = some job) :
    ∃ choices s', s.follow plan choices = some s' ∧ Turn plan (i + 1) s' ∧
      s'.world = ((plan.visit job).run s.world).2 ∧ s'.slots = s.slots.set i ((plan.visit job).run s.world).1 := by
  have hi : i < plan.jobs.length := (List.getElem?_eq_some_iff.1 hjob).1
  have hlt : i < s.workers.length := by rwa [h.workers]
  have hstart : s.advance plan i = some { s with workers := s.workers.set i (.running (plan.visit job)) } := by
    rw [advance, hjob, h.worker hi]
    exact if_pos (h.mayStart hlimit)
  obtain ⟨choices, hvisit⟩ := @exists_follow_running W plan i hi (plan.visit job)
    { s with workers := s.workers.set i (.running (plan.visit job)) } (List.getElem?_set_self hlt)
  rw [List.set_set] at hvisit
  have hdone := @follow_done W plan { s with
    world := ((plan.visit job).run s.world).2
    workers := s.workers.set i (.running (.done ((plan.visit job).run s.world).1)) } i _ job hjob
    (List.getElem?_set_self hlt)
  rw [List.set_set] at hdone
  refine ⟨i :: (choices ++ [i, i, i]), _, Eq.trans ?_ hdone, h.next hi rfl, rfl, rfl⟩
  rw [follow, hstart, Option.bind_some, follow_append, hvisit, Option.bind_some]

/-- The jobs that are left have their turns. -/
theorem Turn.exists_follow_inTurn (hlimit : 0 < plan.limit) (jobs : List Job) : ∀ {i : Nat} {s : Pool W},
    Turn plan i s → plan.jobs.drop i = jobs → s.slots.length = plan.jobs.length →
      ∃ choices s', s.follow plan choices = some s' ∧ Turn plan (i + jobs.length) s' ∧
        s'.world = (inTurn plan.visit jobs s.world).2 ∧
        s'.slots = s.slots.take i ++ (inTurn plan.visit jobs s.world).1 := by
  induction jobs with
  | nil =>
    intro i s h hjobs hslots
    have hi := List.drop_eq_nil_iff.1 hjobs
    refine ⟨[], s, rfl, h, rfl, ?_⟩
    rw [inTurn, List.append_nil, List.take_of_length_le (by rwa [hslots])]
  | cons job jobs ih =>
    intro i s h hjobs hslots
    have hjob : plan.jobs[i]? = some job := by
      rw [← List.head?_drop, hjobs]
      rfl
    have hi : i < plan.jobs.length := (List.getElem?_eq_some_iff.1 hjob).1
    obtain ⟨choices, s₁, hfirst, hturn, hworld, hslots₁⟩ := h.exists_follow hlimit hjob
    have hrest : plan.jobs.drop (i + 1) = jobs := by
      rw [← List.tail_drop, hjobs]
      rfl
    obtain ⟨choices', s₂, hothers, hturn', hworld', hslots'⟩ := ih hturn hrest (by rw [hslots₁, List.length_set, hslots])
    rw [Nat.add_right_comm] at hturn'
    refine ⟨choices ++ choices', s₂, ?_, hturn', ?_, ?_⟩
    · rw [follow_append, hfirst, Option.bind_some, hothers]
    · rw [hworld', hworld]
      rfl
    · have hlt : i < s.slots.length := by rwa [hslots]
      rw [hslots', hslots₁, hworld, List.take_succ_eq_append_getElem (by simpa using hlt),
        List.take_set_of_le (Nat.le_refl i), List.getElem_set_self, List.append_assoc]
      rfl

/-- **Serial visits are one of the orders of a pool.** -/
theorem exists_follow_inTurn (hlimit : 0 < plan.limit) (world : W) :
    ∃ choices s, (start plan world).follow plan choices = some s ∧ s.isFinished = true ∧
      s.world = (inTurn plan.visit plan.jobs world).2 ∧ s.slots = (inTurn plan.visit plan.jobs world).1 := by
  obtain ⟨choices, s, hfollow, hturn, hworld, hslots⟩ :=
    (turn_start world).exists_follow_inTurn hlimit plan.jobs rfl (by simp [start])
  refine ⟨choices, s, hfollow, ?_, hworld, hslots⟩
  rw [isFinished, List.all_eq_true]
  intro worker hw
  apply hturn.through
  rwa [Nat.zero_add, ← hturn.workers, List.take_length]

end Pool

end CastAudit.Run
