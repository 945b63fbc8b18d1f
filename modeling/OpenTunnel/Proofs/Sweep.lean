/-
Module: OpenTunnel.Proofs.Sweep
Layer: Proofs
Purpose: What the sweep of challenge records spares. It compares records with the names that were leased when it read
  them. A job that takes a lease later, for a name that is not among those, loses a record that it took over; as long
  as no lease is taken so, no record of a job that is running is swept.
Imports: OpenTunnel.Tasks.Steps, OpenTunnel.Model.Sweep, OpenTunnel.Proofs.Leases
Trusted boundary: none (fully proved)
Main exports: Zone.Undisturbed, Zone.sweep_spares_running, Zone.adopted_record_swept
Open obligations: none
-/
import OpenTunnel.Tasks.Steps
import OpenTunnel.Model.Sweep
import OpenTunnel.Proofs.Leases

namespace OpenTunnel

open Tasks

/-! ### Leased names -/

theorem JobRow.leasedAt_earlier (row : JobRow) {now later : Nat} (order : now ≤ later)
    (leased : row.leasedAt later = true) : row.leasedAt now = true := by
  unfold JobRow.leasedAt at leased ⊢
  simp only [Bool.and_eq_true, decide_eq_true_eq, Option.any_eq_true] at leased ⊢
  obtain ⟨pending, leasedUntil, held, late⟩ := leased
  exact ⟨pending, leasedUntil, held, by omega⟩

theorem Db.mem_leasedNames {db : Db} {now : Nat} {name : String} :
    name ∈ db.leasedNames now ↔
      ∃ c row, db.job c = some row ∧ row.leasedAt now = true ∧ name ∈ row.challengeNames := by
  unfold leasedNames
  constructor
  · intro named
    obtain ⟨names, listed, held⟩ := List.mem_flatten.mp named
    obtain ⟨c, -, read⟩ := List.mem_filterMap.mp listed
    obtain ⟨row, found, kept⟩ := Option.bind_eq_some_iff.mp read
    split at kept
    · rename_i leased
      cases kept
      exact ⟨c, row, found, leased, held⟩
    · cases kept
  · rintro ⟨c, row, found, leased, held⟩
    apply List.mem_flatten.mpr
    refine ⟨row.challengeNames, List.mem_filterMap.mpr ⟨c, ?_, ?_⟩, held⟩
    · exact Table.mem_present.mpr (by simp [show db.jobs.get c = some row from found])
    · simp [found, leased]

namespace SweepPass

def now : SweepPass → Nat
  | .leasing now _ | .reading now | .listing now _ _ _ | .deleting now _ _ _ => now

def inFlight : SweepPass → List String
  | .leasing .. | .reading _ => []
  | .listing _ inFlight _ _ | .deleting _ inFlight _ _ => inFlight

/-- The sweep may still delete a record of that name. -/
def mayDelete (domain : String) : SweepPass → String → Bool
  | .leasing .., _ | .reading _, _ => false
  | .listing .., _ => true
  | .deleting now inFlight records _, name =>
      records.any fun record => record.sweepable domain (now - dnsSweepAgeMs) inFlight &&
        toAsciiLowercase record.name = name

end SweepPass

namespace Zone

variable {api : DnsApi} {domain : String} {owner : MachineId} {s s' : Zone} {statement : JobStatement}

/-- A lease that the sweep under way does not know of is taken (by a claim, or by the extension of a lease that had
    expired), for a name of which it may still delete a record. -/
def lateLease (domain : String) (s : Zone) (statement : JobStatement) : Bool :=
  match s.pass, statement.call with
  | some pass, .claim c _ | some pass, .extend c _ =>
      (statement.perform s.db).1 && (s.db.job c).any fun row =>
        row.challengeNames.any fun name => !pass.inFlight.contains name && pass.mayDelete domain name
  | _, _ => false

def Undisturbed (domain : String) (e : Event) (s : Zone) : Prop :=
  match e with
  | .statement statement => s.lateLease domain statement = false
  | _ => True

/-- A running job is known to the sweep, or out of its reach; and what was swept was no running job's. -/
structure Spares (domain : String) (s : Zone) : Prop where
  known : ∀ pass, s.pass = some pass → ∀ c row, s.db.job c = some row → row.leasedAt pass.now = true →
    ∀ name ∈ row.challengeNames, name ∈ pass.inFlight ∨ pass.mayDelete domain name = false
  spared : ∀ swept ∈ s.swept, toAsciiLowercase swept.record.name ∉ swept.leased

namespace Spares

theorem initial (db : Db) (records : List ZoneRecord) (sweeper : Option (MachineId × Nat)) :
    Spares domain { db := db, records := records, sweeper := sweeper } where
  known := fun pass is => nomatch is
  spared := by simp

/-- A lease that the statement takes is one the sweep knows. -/
theorem taken (undisturbed : s.lateLease domain statement = false) {pass : SweepPass} (at_ : s.pass = some pass)
    {c : CertificateId} {row : JobRow} (found : s.db.job c = some row)
    (call : statement.call = .claim c owner ∨ statement.call = .extend c owner)
    (ran : (statement.perform s.db).1 = true) {name : String} (named : name ∈ row.challengeNames) :
    name ∈ pass.inFlight ∨ pass.mayDelete domain name = false := by
  have known : (row.challengeNames.any fun name => !pass.inFlight.contains name && pass.mayDelete domain name) = false := by
    unfold lateLease at undisturbed
    rcases call with is | is
    · simpa [at_, is, ran, found] using undisturbed
    · simpa [at_, is, ran, found] using undisturbed
  have one := List.any_eq_false.mp known name named
  cases reach : pass.mayDelete domain name with
  | false => exact Or.inr rfl
  | true => simpa [reach] using one

theorem perform (holds : Spares domain s) (undisturbed : s.lateLease domain statement = false) :
    Spares domain { s with db := (statement.perform s.db).2 } where
  spared := holds.spared
  known := by
    intro pass at_ c row found leased name named
    cases ran : (statement.perform s.db).1 with
    | false =>
        have kept := perform_false ran
        exact holds.known pass at_ c row (kept ▸ found) leased name named
    | true =>
        have unleased (ended : row.leaseUntil = none) : name ∈ pass.inFlight ∨ pass.mayDelete domain name = false := by
          simp [JobRow.leasedAt, ended] at leased
        have move := perform_row statement s.db c
        have after : (statement.perform s.db).2.job c = some row := found
        rw [after] at move
        cases move with
        | same kept => exact holds.known pass at_ c row kept.symm leased name named
        | claimed owner old is before _ _ wrote =>
            cases wrote
            exact taken undisturbed at_ before (Or.inl is) ran named
        | extended owner old is before _ _ wrote =>
            cases wrote
            exact taken undisturbed at_ before (Or.inr is) ran named
        | added job runAt added is _ wrote _ _ endless =>
            cases wrote
            exact unleased endless
        | recorded owner old new is _ _ wrote _ ended =>
            cases wrote
            exact unleased ended
        | released owner old is _ _ wrote =>
            cases wrote
            exact unleased rfl
        | requeued old createdAt is _ _ wrote =>
            cases wrote
            exact unleased rfl
        | requeuedBefore old limit createdAt is _ _ _ _ wrote =>
            cases wrote
            exact unleased rfl

/-- The sweep goes on, with the same names and not more to delete. -/
theorem turn (holds : Spares domain s) (db : s'.db = s.db) (swept : s'.swept = s.swept)
    (reach : ∀ pass', s'.pass = some pass' → (∀ name, pass'.mayDelete domain name = false) ∨
      ∃ pass, s.pass = some pass ∧ pass'.now = pass.now ∧ pass'.inFlight = pass.inFlight ∧
        ∀ name, pass.mayDelete domain name = false → pass'.mayDelete domain name = false) : Spares domain s' where
  spared := by
    rw [swept]
    exact holds.spared
  known := by
    intro pass' at_ c row found leased name named
    rcases reach pass' at_ with never | ⟨pass, was, now, names, less⟩
    · exact Or.inr (never name)
    · rw [db] at found
      rw [now] at leased
      rw [names]
      exact (holds.known pass was c row found leased name named).imp_right (less name)

/-- A record that the sweep is about to delete is no running job's. -/
theorem unleased (holds : Spares domain s) {now time swept : Nat} {inFlight : List String} {record : ZoneRecord}
    {rest : List ZoneRecord} (at_ : s.pass = some (.deleting now inFlight (record :: rest) swept))
    (sweepable : record.sweepable domain (now - dnsSweepAgeMs) inFlight = true) (order : now ≤ time) :
    toAsciiLowercase record.name ∉ s.db.leasedNames time := by
  intro named
  obtain ⟨c, row, found, leased, held⟩ := Db.mem_leasedNames.mp named
  rcases holds.known _ at_ c row found (row.leasedAt_earlier order leased) _ held with known | never
  · have unknown : toAsciiLowercase record.name ∉ inFlight := by
      simp only [ZoneRecord.sweepable, Bool.and_eq_true, Bool.not_eq_true', List.contains_eq_mem,
        decide_eq_false_iff_not] at sweepable
      exact sweepable.2
    exact unknown known
  · simp [SweepPass.mayDelete, sweepable] at never

theorem step {e : Event} (undisturbed : Undisturbed domain e s) (holds : Spares domain s)
    (taken : s.step api owner domain e = some s') : Spares domain s' := by
  cases e with
  | statement statement =>
      cases taken
      exact holds.perform undisturbed
  | createTxt name value id time | deleteTxt id | changeSweeper value =>
      cases taken
      exact holds.turn rfl rfl fun pass at_ => Or.inr ⟨pass, at_, rfl, rfl, fun _ none => none⟩
  | begin now =>
      simp only [Zone.step] at taken
      split at taken
      · split at taken
        · split at taken <;> cases taken
          · exact holds
          · exact holds.turn rfl rfl fun pass at_ => Or.inl (by cases at_; intro name; rfl)
        · cases taken
          exact holds.turn rfl rfl fun pass at_ => Or.inl (by cases at_; intro name; rfl)
      · cases taken
  | swap answered =>
      simp only [Zone.step] at taken
      split at taken <;> try cases taken
      split at taken <;> cases taken
      · exact holds.turn rfl rfl fun pass at_ => Or.inl (by cases at_; intro name; rfl)
      · exact holds.turn rfl rfl fun pass at_ => nomatch at_
  | read answered =>
      simp only [Zone.step] at taken
      split at taken <;> try cases taken
      split at taken <;> cases taken
      · refine ⟨?_, holds.spared⟩
        rintro pass at_ c row found leased name named
        cases at_
        exact Or.inl (Db.mem_leasedNames.mpr ⟨c, row, found, leased, named⟩)
      · exact holds.turn rfl rfl fun pass at_ => nomatch at_
  | list answered =>
      simp only [Zone.step] at taken
      split at taken <;> try cases taken
      rename_i at_
      split at taken
      · cases taken
        exact holds.turn rfl rfl fun pass at' => nomatch at'
      · split at taken <;> cases taken
        · refine holds.turn rfl rfl fun pass at' => Or.inr ⟨_, at_, ?_⟩
          cases at'
          exact ⟨rfl, rfl, fun name never => nomatch never⟩
        · refine holds.turn rfl rfl fun pass at' => Or.inr ⟨_, at_, ?_⟩
          cases at'
          exact ⟨rfl, rfl, fun name never => never⟩
  | delete time ran answered =>
      simp only [Zone.step] at taken
      split at taken <;> try cases taken
      rename_i now inFlight records swept at_
      split at taken
      · cases taken
        exact holds.turn rfl rfl fun pass at' => nomatch at'
      · rename_i record rest
        have fewer (swept' : Nat) (pass : SweepPass) (is : some (SweepPass.deleting now inFlight rest swept') = some pass) :
            ∃ before, s.pass = some before ∧ pass.now = before.now ∧ pass.inFlight = before.inFlight ∧
              ∀ name, before.mayDelete domain name = false → pass.mayDelete domain name = false := by
          cases is
          refine ⟨_, at_, rfl, rfl, ?_⟩
          intro name never
          simp only [SweepPass.mayDelete, List.any_cons, Bool.or_eq_false_iff] at never ⊢
          exact never.2
        split at taken
        · cases taken
          exact holds.turn rfl rfl fun pass at' => nomatch at'
        · split at taken
          · cases taken
            exact holds.turn rfl rfl fun pass at' => Or.inr (fewer swept pass at')
          · rename_i sweepable
            split at taken <;> cases taken
            rename_i order
            have free := holds.unleased at_ (by simpa using sweepable) (Nat.le_of_not_lt order)
            constructor
            · intro pass at'
              cases answered with
              | false => cases at'
              | true =>
                  have gone : Spares domain { s with pass := some (.deleting now inFlight rest (swept + 1)) } :=
                    holds.turn rfl rfl fun pass at' => Or.inr (fewer (swept + 1) pass at')
                  exact gone.known pass at'
            · intro entry held
              cases ran with
              | false => exact holds.spared entry held
              | true =>
                  rcases List.mem_cons.mp held with rfl | old
                  · exact free
                  · exact holds.spared entry old

end Spares

/-- As long as no lease is taken behind the back of a sweep, no sweep deletes a record of a job that is leased then,
    whatever the DNS provider answers. -/
theorem sweep_spares_running (api : DnsApi) (owner : MachineId) (domain : String) (db : Db) (records : List ZoneRecord)
    (sweeper : Option (MachineId × Nat)) {s : Zone}
    (reached : Stepped (Zone.step api owner domain) (Undisturbed domain)
      { db := db, records := records, sweeper := sweeper } s) :
    ∀ swept ∈ s.swept, toAsciiLowercase swept.record.name ∉ swept.leased :=
  (reached.invariant (.initial db records sweeper) fun _ _ _ meets holds taken => Spares.step meets holds taken).spared

/-! ### A sweep with and without a claim in the middle -/

instance (e : Event) (s : Zone) : Decidable (Undisturbed domain e s) :=
  match e with
  | .statement statement => inferInstanceAs (Decidable (s.lateLease domain statement = false))
  | .createTxt .. | .deleteTxt _ | .changeSweeper _ | .begin _ | .swap _ | .read _ | .list _ | .delete .. =>
      inferInstanceAs (Decidable True)

/-- A record that an attempt left behind. -/
def leftover : ZoneRecord :=
  { id := "r", name := "_acme-challenge.t.example", content := "0123456789012345678901234567890123456789abc",
    createdOn := some 0 }

def jobOfLeftover : Job :=
  { certificateId := "c", tunnelId := some "t", kind := .issue, identifiers := ["t.example", "*.t.example"],
    csr := "csr", attempts := 1, createdAt := 0 }

/-- The job that left it, to be tried again. -/
def waitingJob : JobRow :=
  { job := jobOfLeftover, status := .pending, runAt := 0, updatedAt := 0, leaseOwner := none, leaseUntil := none,
    lastError := none }

/-- The names of the records swept and of the jobs leased then, and how many records the zone has. -/
def sweepOutcome (s : Zone) : List (String × List String) × Nat :=
  (s.swept.map fun swept => (swept.record.name, swept.leased), s.records.length)

/-- The leftover is swept, and the job claimed after that. -/
theorem sweep_spares_running_leftover : ∃ s : Zone,
    (Stepped (Zone.step cloudflare "a" "example") (Undisturbed "example")
      { db := Db.putJob ⟨.empty, .empty, .empty⟩ "c" waitingJob, records := [leftover], sweeper := none } s ∧
      sweepOutcome s = ([("_acme-challenge.t.example", [])], 0)) ∧
    ∀ swept ∈ s.swept, toAsciiLowercase swept.record.name ∉ swept.leased := by
  have played : (playSteps (Zone.step cloudflare "a" "example") (Undisturbed "example")
      [.begin (2 * hourMs), .swap true, .read true, .list true, .delete (2 * hourMs) true true,
       .statement { now := 2 * hourMs, call := .claim "c" "b" }]
      { db := Db.putJob ⟨.empty, .empty, .empty⟩ "c" waitingJob, records := [leftover], sweeper := none }).map
        sweepOutcome = some ([("_acme-challenge.t.example", [])], 0) := by
    decide +kernel
  obtain ⟨s, ran, seen⟩ := Option.map_eq_some_iff.mp played
  have reached := stepped_of_play ran
  exact ⟨s, ⟨reached, seen⟩, sweep_spares_running cloudflare "a" "example" _ _ _ reached⟩

/-- Another machine claims the job after the sweep read the leased names, and takes over the leftover, which has the
    value it needs. The sweep then deletes it. -/
theorem adopted_record_swept : ∃ s : Zone,
    Stepped (Zone.step cloudflare "a" "example") (fun _ _ => True)
      { db := Db.putJob ⟨.empty, .empty, .empty⟩ "c" waitingJob, records := [leftover], sweeper := none } s ∧
    sweepOutcome s = ([("_acme-challenge.t.example", ["_acme-challenge.t.example", "_acme-challenge.t.example"])], 0) ∧
    ¬ ∀ swept ∈ s.swept, toAsciiLowercase swept.record.name ∉ swept.leased := by
  have played : (playSteps (Zone.step cloudflare "a" "example") (fun _ _ => True)
      [.begin (2 * hourMs), .swap true, .read true, .statement { now := 2 * hourMs, call := .claim "c" "b" },
       .createTxt leftover.name leftover.content "new" (2 * hourMs), .list true, .delete (2 * hourMs) true true]
      { db := Db.putJob ⟨.empty, .empty, .empty⟩ "c" waitingJob, records := [leftover], sweeper := none }).map
        (fun s => (sweepOutcome s, decide (∀ swept ∈ s.swept, toAsciiLowercase swept.record.name ∉ swept.leased))) =
      some (([("_acme-challenge.t.example", ["_acme-challenge.t.example", "_acme-challenge.t.example"])], 0), false) := by
    decide +kernel
  obtain ⟨s, ran, seen⟩ := Option.map_eq_some_iff.mp played
  obtain ⟨outcome, lost⟩ := Prod.mk.inj seen
  exact ⟨s, stepped_of_play ran, outcome, of_decide_eq_false lost⟩

end Zone

end OpenTunnel
