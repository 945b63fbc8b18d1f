/-
Module: OpenTunnel.Proofs.Runner
Layer: Proofs
Purpose: The slots of a process's job runner. Whatever the order of listings, claims, ends of executions and cool-downs,
  the jobs in the map are at most the concurrency and the first issuances among them at most `issue_slots`, each job
  runs once at a time, and a pass that found the certificate authority cooling down starts one renewal at a time.
Imports: OpenTunnel.Tasks.Steps, OpenTunnel.Model.Runner, OpenTunnel.Proofs.Leases,
  OpenTunnel.Proofs.Schedule
Trusted boundary: none (fully proved)
Main exports: Runner.WithinSlots, Runner.slots_respected
Open obligations: none
-/
import OpenTunnel.Tasks.Steps
import OpenTunnel.Model.Runner
import OpenTunnel.Proofs.Leases
import OpenTunnel.Proofs.Schedule

namespace OpenTunnel

open Tasks

/-! ### A job keeps its kind -/

/-- The kind of a certificate's job. -/
def Db.kindOf (db : Db) (c : CertificateId) : Option JobKind := (db.job c).map (·.job.kind)

namespace Db

variable {db : Db} {c : CertificateId} {kind : JobKind}

theorem kindOf_updateJob (c' : CertificateId) (guard : JobRow → Bool) (update : JobRow → JobRow)
    (keeps : ∀ row, (update row).job.kind = row.job.kind) : (db.updateJob c' guard update).2.kindOf c = db.kindOf c := by
  unfold kindOf
  rcases job_updateJob db c c' guard update with ⟨kept, -⟩ | ⟨row, -, found, -, -, wrote⟩
  · rw [kept]
  · rw [wrote, found]
    simp [keeps]

theorem kindOf_claimJob (c' : CertificateId) (owner : MachineId) (now : Nat) :
    (db.claimJob c' owner now).2.kindOf c = db.kindOf c := by
  unfold claimJob kindOf
  cases found : db.job c' with
  | none => rfl
  | some row =>
      dsimp only
      split
      · by_cases same : c = c'
        · subst same
          simp [found]
        · simp [same]
      · rfl

/-- No statement changes the kind of a job that is there. -/
theorem kindOf_perform (s : JobStatement) (known : db.kindOf c = some kind) : (s.perform db).2.kindOf c = some kind := by
  obtain ⟨now, call⟩ := s
  cases call with
  | add job runAt =>
      simp only [JobStatement.perform, addJob]
      cases found : db.job job.certificateId with
      | some row => exact known
      | none =>
          have other : c ≠ job.certificateId := by
            rintro rfl
            simp [kindOf, found] at known
          simpa [kindOf, other] using known
  | claim c' owner => exact (kindOf_claimJob c' owner now).trans known
  | release owner =>
      simp only [JobStatement.perform, kindOf, job_releaseLeases] at known ⊢
      cases found : db.job c with
      | none => simp [found] at known
      | some row =>
          simp only [found, Option.map_some] at known ⊢
          split <;> exact known
  | extend c' owner | finish c' owner status error | retry c' owner attempts runAt error | requeueFailed c'
  | requeueBefore c' before =>
      refine Eq.trans (kindOf_updateJob c' _ _ ?_) known
      intro row
      rfl

end Db

/-! ### What every state of the runner satisfies -/

namespace Runner

variable {s s' : Runner} {c : CertificateId} {kind : JobKind} {concurrency : Nat}

/-- The job that a pass has put into the map and has not started. -/
def taking (s : Runner) : List CertificateId :=
  match s.pass with
  | some (.claiming _ _ c) | some (.reading _ _ c) => [c]
  | _ => []

/-- The jobs that someone will take out of the map. -/
def busy (s : Runner) : List CertificateId := s.executing ++ s.leaving ++ s.taking

/-- The jobs that the pass has listed and not looked at. -/
def upcoming (s : Runner) : List Scheduled :=
  match s.pass with
  | some (.listed _ due) | some (.starting _ due) | some (.claiming _ due _) | some (.reading _ due _) => due
  | _ => []

structure WithinSlots (concurrency : Nat) (s : Runner) : Prop where
  distinct : s.ids.Nodup
  room : s.running.length ≤ concurrency
  issues : s.issuing ≤ issueSlots concurrency
  apart : s.busy.Nodup
  entered : ∀ c ∈ s.busy, c ∈ s.ids
  kinds : ∀ entry ∈ s.running, s.db.kindOf entry.1 = some entry.2
  listed : ∀ entry ∈ s.upcoming, s.db.kindOf entry.certificateId = some entry.kind
  alone : s.foundCooling = true → ∀ c ∈ s.taking, ∀ entry ∈ s.running,
    (entry.1 = c → entry.2 ≠ .issue) ∧ (entry.1 ≠ c → entry.2 = .issue)

theorem mem_ids : c ∈ s.ids ↔ ∃ kind, (c, kind) ∈ s.running := by
  simp [ids]

/-- The map writes a kind over the same kind. -/
theorem insertRunning_known (kinds : ∀ entry ∈ s.running, s.db.kindOf entry.1 = some entry.2)
    (known : s.db.kindOf c = some kind) (there : c ∈ s.ids) : s.insertRunning c kind = s := by
  have same : (s.running.map fun entry => if entry.1 = c then (c, kind) else entry) = s.running := by
    apply (List.map_congr_left ?_).trans (List.map_id s.running)
    intro entry held
    split
    · rename_i is
      subst is
      have equal := (kinds entry held).symm.trans known
      cases equal
      rfl
    · rfl
  unfold insertRunning
  rw [if_pos (by simpa using there), same]

theorem ids_removeRunning (s : Runner) (c : CertificateId) : (s.removeRunning c).ids = s.ids.filter (· ≠ c) := by
  simp [ids, removeRunning, List.filter_map, Function.comp_def]

namespace WithinSlots

/-- Nothing is added to the map. -/
theorem fewer (holds : WithinSlots concurrency s) (fewer : s'.running.Sublist s.running) (apart : s'.busy.Nodup)
    (entered : ∀ c ∈ s'.busy, c ∈ s'.ids) (kept : ∀ c kind, s.db.kindOf c = some kind → s'.db.kindOf c = some kind)
    (listed : ∀ entry ∈ s'.upcoming, s.db.kindOf entry.certificateId = some entry.kind)
    (alone : s'.taking = [] ∨ s'.taking = s.taking ∧ s'.foundCooling = s.foundCooling) :
    WithinSlots concurrency s' where
  distinct := holds.distinct.sublist (fewer.map _)
  room := Nat.le_trans fewer.length_le holds.room
  issues := Nat.le_trans (fewer.filter _).length_le holds.issues
  apart := apart
  entered := entered
  kinds := fun entry held => kept _ _ (holds.kinds entry (fewer.subset held))
  listed := fun entry held => kept _ _ (listed entry held)
  alone := by
    intro cooling c taken entry held
    rcases alone with none | ⟨same, flag⟩
    · simp [none] at taken
    · exact holds.alone (flag ▸ cooling) c (same ▸ taken) entry (fewer.subset held)

/-- A pass goes on, with no job in its hands. -/
theorem turn (holds : WithinSlots concurrency s) (pass : Option StartPass) (idle : { s with pass := pass }.taking = [])
    (listed : ∀ entry ∈ { s with pass := pass }.upcoming, s.db.kindOf entry.certificateId = some entry.kind) :
    WithinSlots concurrency { s with pass := pass } := by
  have left : { s with pass := pass }.busy = s.executing ++ s.leaving := by simp [busy, idle]
  refine holds.fewer (List.Sublist.refl _) ?_ ?_ ?_ listed (Or.inl idle)
  · rw [left]
    exact (List.nodup_append.mp holds.apart).1
  · intro c held
    rw [left] at held
    exact holds.entered c (List.mem_append_left _ held)
  · exact fun _ _ known => known

/-- A job whose task or claim is over leaves the map. -/
theorem remove (holds : WithinSlots concurrency s) (c : CertificateId) (running : s'.running = s.running)
    (apart : (c :: s'.busy).Nodup) (was : ∀ other ∈ s'.busy, other ∈ s.busy)
    (kept : ∀ c kind, s.db.kindOf c = some kind → s'.db.kindOf c = some kind)
    (listed : ∀ entry ∈ s'.upcoming, s.db.kindOf entry.certificateId = some entry.kind)
    (alone : s'.taking = [] ∨ s'.taking = s.taking ∧ s'.foundCooling = s.foundCooling) :
    WithinSlots concurrency (s'.removeRunning c) := by
  obtain ⟨out, rest⟩ := List.nodup_cons.mp apart
  apply holds.fewer
  · simp [removeRunning, running]
  · exact rest
  · intro other held
    have there : other ∈ s'.ids := by
      simpa [ids, running] using holds.entered other (was other held)
    have differs : other ≠ c := by
      rintro rfl
      exact out held
    simp [ids_removeRunning, there, differs]
  · exact kept
  · exact listed
  · exact alone

/-- A job is put into the map. -/
theorem insert (holds : WithinSlots concurrency s) {cooling : Bool} {rest : List Scheduled} (room : s.running.length < concurrency)
    (slot : kind = .issue → s.issuing < issueSlots concurrency)
    (allowed : cooling = true → kind ≠ .issue ∧ s.issuing = s.running.length) (fresh : c ∉ s.ids)
    (known : s.db.kindOf c = some kind) (listed : ∀ entry ∈ rest, s.db.kindOf entry.certificateId = some entry.kind) :
    WithinSlots concurrency ({ s with pass := some (.claiming cooling rest c) }.insertRunning c kind) := by
  have apart : (s.executing ++ s.leaving).Nodup := (List.nodup_append.mp holds.apart).1
  have entered : ∀ other ∈ s.executing ++ s.leaving, other ∈ s.ids := by
    intro other held
    exact holds.entered other (List.mem_append_left _ held)
  have placed : ({ s with pass := some (.claiming cooling rest c) }.insertRunning c kind) =
      { s with pass := some (.claiming cooling rest c), running := (c, kind) :: s.running } := by
    unfold insertRunning
    rw [if_neg (by simpa [ids] using fresh)]
  rw [placed]
  exact {
    distinct := List.nodup_cons.mpr ⟨fresh, holds.distinct⟩
    room := room
    issues := by
      have before := holds.issues
      unfold issuing at before slot ⊢
      by_cases is : kind = .issue
      · have less := slot is
        simp only [List.filter_cons, is, decide_true, if_true, List.length_cons]
        exact less
      · simpa [List.filter_cons, is] using before
    apart := by
      apply List.nodup_append.mpr
      refine ⟨apart, by simp [taking], ?_⟩
      intro other held c' taken same
      obtain rfl : c' = c := by simpa [taking] using taken
      exact fresh (same ▸ entered other held)
    entered := by
      intro other held
      rcases List.mem_append.mp held with old | new
      · exact List.mem_cons_of_mem _ (entered other old)
      · obtain rfl : other = c := by simpa [taking] using new
        exact List.mem_cons_self
    kinds := by
      intro entry held
      rcases List.mem_cons.mp held with rfl | old
      · exact known
      · exact holds.kinds entry old
    listed := listed
    alone := by
      intro found c' taken entry held
      obtain rfl : c' = c := by simpa [taking] using taken
      obtain ⟨renewal, others⟩ := allowed found
      rcases List.mem_cons.mp held with rfl | old
      · exact ⟨fun _ => renewal, fun differs => absurd rfl differs⟩
      · have all := List.length_filter_eq_length_iff.mp others entry old
        refine ⟨fun same => absurd (mem_ids.mpr ⟨entry.2, ?_⟩) fresh, fun _ => by simpa using all⟩
        simpa [← same] using old }

theorem consider (holds : WithinSlots concurrency s) {cooling : Bool} {due : List Scheduled}
    (at_ : s.pass = some (.starting cooling due)) : WithinSlots concurrency (s.consider concurrency cooling due) := by
  have ends : WithinSlots concurrency { s with pass := none } := holds.turn none rfl (by simp [upcoming])
  cases due with
  | nil => exact ends
  | cons entry rest =>
      have all : ∀ entry' ∈ entry :: rest, s.db.kindOf entry'.certificateId = some entry'.kind := by
        simpa [upcoming, at_] using holds.listed
      have rests : ∀ entry' ∈ rest, s.db.kindOf entry'.certificateId = some entry'.kind :=
        fun entry' held => all entry' (List.mem_cons_of_mem _ held)
      have skips : WithinSlots concurrency { s with pass := some (.starting cooling rest) } :=
        holds.turn _ rfl rests
      simp only [Runner.consider]
      split
      · exact ends
      · rename_i room
        split
        · exact skips
        · rename_i slot
          split
          · exact skips
          · rename_i calm
            split
            · rename_i there
              rw [insertRunning_known skips.kinds (all entry List.mem_cons_self) (List.contains_iff_mem.mp there)]
              exact skips
            · rename_i fresh
              apply holds.insert (by omega)
              · intro is
                simp only [is, true_and] at slot
                omega
              · intro found
                have few : s.issuing ≤ s.running.length := List.length_filter_le _ _
                simp only [found, true_and, not_or] at calm
                exact ⟨calm.1, by omega⟩
              · simpa using fresh
              · exact all entry List.mem_cons_self
              · exact rests

theorem initial (db : Db) : WithinSlots concurrency { db := db } where
  distinct := List.nodup_nil
  room := Nat.zero_le _
  issues := Nat.zero_le _
  apart := List.nodup_nil
  entered := by simp [busy, taking]
  kinds := by simp
  listed := by simp [upcoming]
  alone := by simp [taking]

/-- The job of the pass is one of the busy ones. -/
theorem taking_apart (holds : WithinSlots concurrency s) (taken : s.taking = [c]) :
    (c :: (s.executing ++ s.leaving)).Nodup := by
  have apart := holds.apart
  unfold busy at apart
  rw [taken] at apart
  exact (List.perm_append_singleton c _).nodup_iff.mp apart

/-- The pass lets go of its job. -/
theorem drop (holds : WithinSlots concurrency s) (taken : s.taking = [c]) (db : Db) (pass : Option StartPass)
    (idle : { s with db := db, pass := pass }.taking = [])
    (kept : ∀ c kind, s.db.kindOf c = some kind → db.kindOf c = some kind)
    (listed : ∀ entry ∈ { s with db := db, pass := pass }.upcoming, s.db.kindOf entry.certificateId = some entry.kind) :
    WithinSlots concurrency ({ s with db := db, pass := pass }.removeRunning c) := by
  have left : { s with db := db, pass := pass }.busy = s.executing ++ s.leaving := by simp [busy, idle]
  refine holds.remove c rfl ?_ ?_ kept listed (Or.inl idle)
  · rw [left]
    exact holds.taking_apart taken
  · intro other held
    rw [left] at held
    exact List.mem_append_left _ held

/-- The claim of the job in hand: it is read next, or let go. -/
theorem step_claim {owner : MachineId} {configured : Nat} {now : Nat} {answered ran : Bool} (holds : WithinSlots (max configured 1) s)
    (taken : s.step owner configured (.claim now answered ran) = some s') : WithinSlots (max configured 1) s' := by
  simp only [Runner.step] at taken
  split at taken <;> try cases taken
  rename_i cooling due c at_
  have kept : ∀ c' kind, s.db.kindOf c' = some kind → (s.db.claimJob c owner now).2.kindOf c' = some kind :=
    fun c' kind known => (Db.kindOf_claimJob c owner now).trans known
  have hand : s.taking = [c] := by simp [taking, at_]
  have listed : ∀ entry ∈ due, s.db.kindOf entry.certificateId = some entry.kind := by
    simpa [upcoming, at_] using holds.listed
  split at taken
  · split at taken <;> cases taken
    · refine holds.fewer (List.Sublist.refl _) ?_ ?_ kept listed (Or.inr ?_)
      · simpa [busy, taking, at_] using holds.apart
      · intro other held
        exact holds.entered other (by simpa [busy, taking, at_] using held)
      · simp [taking, foundCooling, at_]
    · exact holds.drop hand _ _ rfl kept listed
  · cases taken
    refine holds.drop hand _ _ rfl ?_ (by simp [upcoming])
    intro c' kind known
    split
    · exact kept c' kind known
    · exact known

/-- The read at the end of a claim: the job goes to a task of its own, or is let go. -/
theorem step_read {owner : MachineId} {configured : Nat} {answered : Bool} (holds : WithinSlots (max configured 1) s)
    (taken : s.step owner configured (.read answered) = some s') : WithinSlots (max configured 1) s' := by
  simp only [Runner.step] at taken
  split at taken <;> try cases taken
  rename_i cooling due c at_
  have hand : s.taking = [c] := by simp [taking, at_]
  have listed : ∀ entry ∈ due, s.db.kindOf entry.certificateId = some entry.kind := by
    simpa [upcoming, at_] using holds.listed
  split at taken
  · split at taken <;> cases taken
    · -- the job goes from the pass to a task of its own
      have same : List.Perm (c :: s.executing ++ s.leaving) s.busy := by
        unfold busy
        rw [hand]
        exact (List.perm_append_singleton c _).symm
      refine holds.fewer (List.Sublist.refl _) ?_ ?_ (fun _ _ known => known) listed (Or.inl rfl)
      · simpa [busy, taking] using same.nodup_iff.mpr holds.apart
      · intro other held
        exact holds.entered other (same.mem_iff.mp (by simpa [busy, taking] using held))
    · exact holds.drop hand _ _ rfl (fun _ _ known => known) listed
  · cases taken
    exact holds.drop hand _ _ rfl (fun _ _ known => known) (by simp [upcoming])

/-- A task that is done is about to leave the map. -/
theorem step_executed {owner : MachineId} {configured : Nat} (holds : WithinSlots (max configured 1) s)
    (taken : s.step owner configured (.executed c) = some s') : WithinSlots (max configured 1) s' := by
  simp only [Runner.step] at taken
  split at taken <;> cases taken
  rename_i runs
  have same : List.Perm ({ s with executing := s.executing.erase c, leaving := c :: s.leaving }.busy) s.busy := by
    have moved : List.Perm (s.executing.erase c ++ c :: s.leaving) (s.executing ++ s.leaving) :=
      List.perm_middle.trans (List.Perm.append_right s.leaving (List.perm_cons_erase runs).symm)
    exact moved.append_right s.taking
  refine holds.fewer (List.Sublist.refl _) ?_ ?_ (fun _ _ known => known) holds.listed (Or.inr ⟨rfl, rfl⟩)
  · exact same.nodup_iff.mpr holds.apart
  · intro other held
    exact holds.entered other (same.mem_iff.mp held)

/-- And leaves it. -/
theorem step_leave {owner : MachineId} {configured : Nat} (holds : WithinSlots (max configured 1) s)
    (taken : s.step owner configured (.leave c) = some s') : WithinSlots (max configured 1) s' := by
  simp only [Runner.step] at taken
  split at taken <;> cases taken
  rename_i runs
  have same : List.Perm (c :: { s with leaving := s.leaving.erase c }.busy) s.busy := by
    have moved : List.Perm (c :: (s.executing ++ s.leaving.erase c)) (s.executing ++ s.leaving) :=
      List.perm_middle.symm.trans (List.Perm.append_left s.executing (List.perm_cons_erase runs).symm)
    exact moved.append_right s.taking
  refine holds.remove c rfl ?_ ?_ (fun _ _ known => known) holds.listed (Or.inr ⟨rfl, rfl⟩)
  · exact same.nodup_iff.mpr holds.apart
  · intro other held
    exact same.mem_iff.mp (List.mem_cons_of_mem c held)

/-- Every event keeps the slots. -/
theorem step {owner : MachineId} {configured : Nat} {e : Event} (holds : WithinSlots (max configured 1) s)
    (taken : s.step owner configured e = some s') : WithinSlots (max configured 1) s' := by
  cases e with
  | statement statement =>
      cases taken
      exact holds.fewer (List.Sublist.refl _) holds.apart holds.entered
        (fun _ _ known => Db.kindOf_perform statement known) holds.listed (Or.inr ⟨rfl, rfl⟩)
  | stop =>
      cases taken
      exact holds.fewer (List.Sublist.refl _) holds.apart holds.entered (fun _ _ known => known) holds.listed
        (Or.inr ⟨rfl, rfl⟩)
  | begin now =>
      simp only [Runner.step] at taken
      split at taken <;> try cases taken
      split at taken <;> cases taken
      · exact holds
      · exact holds.turn _ rfl (by simp [upcoming])
  | list answered =>
      simp only [Runner.step] at taken
      split at taken <;> try cases taken
      split at taken <;> cases taken
      · apply holds.turn _ rfl
        intro entry held
        obtain ⟨row, found, -, -, kind⟩ := Db.mem_pendingJobs.mp (pending_of_mem_jobSchedule held)
        simp [Db.kindOf, found, kind]
      · exact holds.turn _ rfl (by simp [upcoming])
  | cool coolingUntil =>
      simp only [Runner.step] at taken
      split at taken <;> cases taken
      rename_i at_
      apply holds.turn _ rfl
      intro entry held
      exact holds.listed entry (by simpa [upcoming, at_] using List.mem_of_mem_filter held)
  | consider =>
      simp only [Runner.step] at taken
      split at taken <;> cases taken
      rename_i at_
      exact holds.consider at_
  | claim now answered ran => exact holds.step_claim taken
  | read answered => exact holds.step_read taken
  | executed c => exact holds.step_executed taken
  | leave c => exact holds.step_leave taken

end WithinSlots

/-! ### The slots -/

/-- What the runner promises about a state and the next step. -/
structure SlotsRespected (owner : MachineId) (configured : Nat) (s : Runner) : Prop where
  room : s.running.length ≤ max configured 1
  issues : s.issuing ≤ issueSlots (max configured 1)
  reserve : 1 < max configured 1 → issueSlots (max configured 1) < max configured 1
  /-- no certificate is executed twice at once -/
  once : s.executing.Nodup
  executing : s.executing.length ≤ s.running.length
  /-- what is executed is in the map, under its own kind -/
  counted : ∀ c ∈ s.executing, ∃ kind, (c, kind) ∈ s.running ∧ s.db.kindOf c = some kind
  /-- a job that a pass starts during a cool-down is no first issuance, and all others that run are -/
  cooling : ∀ e s' c, s.step owner configured e = some s' → c ∈ s'.executing → c ∉ s.executing →
    s.foundCooling = true → s.db.kindOf c ≠ some .issue ∧ ∀ other ∈ s.running, other.1 ≠ c → other.2 = .issue

theorem executing_insertRunning (s : Runner) (c : CertificateId) (kind : JobKind) :
    (s.insertRunning c kind).executing = s.executing := by
  unfold insertRunning
  split <;> rfl

theorem executing_consider (cooling : Bool) (due : List Scheduled) :
    (s.consider concurrency cooling due).executing = s.executing := by
  cases due with
  | nil => rfl
  | cons entry rest =>
      simp only [Runner.consider]
      repeat' split
      all_goals simp [executing_insertRunning]

/-- Only the read at the end of a claim starts a job, the one the pass has taken. -/
theorem started_taking {owner : MachineId} {configured : Nat} {e : Event} (taken : s.step owner configured e = some s')
    (runs : c ∈ s'.executing) (fresh : c ∉ s.executing) : c ∈ s.taking := by
  cases e with
  | read answered =>
      simp only [Runner.step] at taken
      split at taken <;> try cases taken
      rename_i at_
      split at taken
      · split at taken <;> cases taken
        · rcases List.mem_cons.mp runs with rfl | old
          · simp [taking, at_]
          · exact absurd old fresh
        · exact absurd runs fresh
      · cases taken
        exact absurd runs fresh
  | consider =>
      simp only [Runner.step] at taken
      split at taken <;> cases taken
      rw [executing_consider] at runs
      exact absurd runs fresh
  | executed c' =>
      simp only [Runner.step] at taken
      split at taken <;> cases taken
      exact absurd (List.mem_of_mem_erase runs) fresh
  | statement _ | stop =>
      cases taken
      exact absurd runs fresh
  | begin _ | list _ | cool _ | claim _ _ _ | leave _ =>
      simp only [Runner.step] at taken
      repeat' split at taken
      all_goals
        cases taken
        try exact absurd runs fresh

/-- The slots hold in every state, whatever the order of jobs, ends and cool-downs. -/
theorem slots_respected (owner : MachineId) (configured : Nat) (db : Db) {s : Runner}
    (reached : Stepped (Runner.step owner configured) (fun _ _ => True) { db := db } s) :
    SlotsRespected owner configured s := by
  have holds : WithinSlots (max configured 1) s :=
    reached.invariant (.initial db) fun _ _ _ _ before taken => before.step taken
  have apart : s.executing.Nodup := by
    have all := holds.apart
    unfold busy at all
    exact (List.nodup_append.mp (List.nodup_append.mp all).1).1
  have entered : ∀ c ∈ s.executing, c ∈ s.ids := by
    intro c runs
    exact holds.entered c (List.mem_append_left _ (List.mem_append_left _ runs))
  exact {
    room := holds.room
    issues := holds.issues
    reserve := by
      intro more
      rw [issueSlots, if_pos more]
      omega
    once := apart
    executing := by simpa [ids] using apart.length_le_of_subset entered
    counted := by
      intro c runs
      obtain ⟨kind, held⟩ := mem_ids.mp (entered c runs)
      exact ⟨kind, held, holds.kinds _ held⟩
    cooling := by
      intro e s' c taken runs fresh found
      have taking := started_taking taken runs fresh
      have alone := holds.alone found c taking
      obtain ⟨kind, held⟩ := mem_ids.mp (holds.entered c (List.mem_append_right _ taking))
      constructor
      · rw [holds.kinds _ held]
        exact fun is => (alone _ held).1 rfl (Option.some.inj is)
      · exact fun other there differs => (alone other there).2 differs }

/-- A renewal and an issuance are due, and there is room for both. The pass finds a cool-down and takes the renewal. -/
theorem slots_respected_cooldown :
    ∃ s, (Stepped (Runner.step "a" 2) (fun _ _ => True) { db := renewalAndIssuance } s ∧ s.executing = ["renew"] ∧
      s.running = [("renew", .renew)] ∧ s.foundCooling = true) ∧ SlotsRespected "a" 2 s := by
  have rows : renewalAndIssuance.pendingJobs "a" =
      [{ certificateId := "renew", readyAt := 20, kind := .renew },
       { certificateId := "issue", readyAt := 10, kind := .issue }] := by decide
  have listing : renewalAndIssuance.jobSchedule "a" 30 3 =
      [{ certificateId := "renew", readyAt := 20, kind := .renew },
       { certificateId := "issue", readyAt := 10, kind := .issue }] := by
    rw [Db.jobSchedule, rows, orderBy_of_pairwise]
    · rfl
    · decide
  have first : Stepped (Runner.step "a" 2) (fun _ _ => True) { db := renewalAndIssuance }
      { db := renewalAndIssuance, pass := some (.listed 30
        [{ certificateId := "renew", readyAt := 20, kind := .renew },
         { certificateId := "issue", readyAt := 10, kind := .issue }]) } := by
    apply Stepped.step (.list true) (Stepped.one (.begin 30) trivial rfl) trivial
    simp [Runner.step, listing]
  have played : (playSteps (Runner.step "a" 2) (fun _ _ => True)
      [.cool 90, .consider, .claim 31 true true, .read true, .consider]
      { db := renewalAndIssuance, pass := some (.listed 30
        [{ certificateId := "renew", readyAt := 20, kind := .renew },
         { certificateId := "issue", readyAt := 10, kind := .issue }]) }).map
        (fun s => (s.executing, s.running, s.foundCooling)) = some (["renew"], [("renew", .renew)], true) := by
    decide +kernel
  obtain ⟨s, ran, seen⟩ := Option.map_eq_some_iff.mp played
  simp only [Prod.mk.injEq] at seen
  have reached := first.trans (stepped_of_play ran)
  exact ⟨s, ⟨reached, seen⟩, slots_respected "a" 2 _ reached⟩

end Runner

end OpenTunnel
