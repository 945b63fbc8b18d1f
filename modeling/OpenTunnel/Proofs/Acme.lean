/-
Module: OpenTunnel.Proofs.Acme
Layer: Proofs
Purpose: Challenge records outlive their use. Whatever the certificate authority and the DNS provider answer, and
  wherever a shutdown or an error ends the attempt, a record is deleted only after every authorization whose challenge
  was answered was read in a final state or deactivated. The variable `unsettled` carries it: an answered
  authorization is settled in the journal of calls, or it is still there.
Imports: OpenTunnel.Tasks.Discipline, OpenTunnel.Model.Acme
Trusted boundary: none (fully proved)
Main exports: Acme.Settles, Acme.records_outlive_use
Open obligations: none
-/
import OpenTunnel.Tasks.Discipline
import OpenTunnel.Model.Acme

namespace OpenTunnel.Acme

open Tasks
open Tasks.Prog (Follows follows_bind follows_exceptBind follows_mono follows_of_all all_bind all_exceptBind)

/-! ### What an issuance may do when -/

/-- A call with its answer. -/
abbrev Happened := (op : AcmeOp) × AcmeAns op

/-- The certificate authority shows that the authorization is not pending, or it accepts its deactivation. -/
inductive Settles (url : String) : Happened → Prop where
  | deactivated (response : Response) : Settles url ⟨.plain (.deactivate url), .ok response⟩
  | read {response : Response} {authorization : Authorization} (shown : response.authorization = some authorization)
      (final : authorization.status ≠ "pending") : Settles url ⟨.plain (.get url), .ok response⟩
  | polled {response : Response} {authorization : Authorization} (shown : response.authorization = some authorization)
      (final : authorization.status ≠ "pending") : Settles url ⟨.select (.get url), some (.ok response)⟩

/-- Every authorization answered is settled afterwards, apart from those given. -/
def Balanced (unsettled : List Pending) (journal : List Happened) : Prop :=
  ∀ first authorization answer rest, journal = first ++ ⟨.select (.answer authorization), answer⟩ :: rest →
    (∃ made ∈ rest, Settles authorization.url made) ∨ authorization ∈ unsettled

def AcmeOp.deletes : AcmeOp → Bool
  | .plain (.deleteTxt _) => true
  | _ => false

def AcmeOp.answers : AcmeOp → Bool
  | .select (.answer _) => true
  | _ => false

/-- No record is gone yet. -/
def Undeleted (journal : List Happened) : Prop := ∀ made ∈ journal, made.1.deletes = false

/-- Records are deleted when all is settled, and no challenge is answered after that. -/
def discipline : Discipline AcmeOp AcmeAns (List Happened) where
  start := []
  next := fun journal op ans => journal ++ [⟨op, ans⟩]
  allows := fun journal op => (op.deletes = true → Balanced [] journal) ∧ (op.answers = true → Undeleted journal)

section Journal

variable {unsettled more : List Pending} {journal : List Happened} {op : AcmeOp} {ans : AcmeAns op}

theorem Balanced.mono (balanced : Balanced unsettled journal) (subset : ∀ p ∈ unsettled, p ∈ more) :
    Balanced more journal := by
  intro first authorization answer rest split
  exact (balanced first authorization answer rest split).imp_right (subset authorization)

/-- One more call, that answers at most an authorization that is still to settle. -/
theorem Balanced.snoc (balanced : Balanced unsettled journal)
    (answered : ∀ authorization, op = .select (.answer authorization) → authorization ∈ unsettled) :
    Balanced unsettled (journal ++ [⟨op, ans⟩]) := by
  intro first authorization answer rest split
  rcases List.eq_nil_or_concat rest with rfl | ⟨rest', last, rfl⟩
  · obtain ⟨-, same⟩ := List.append_inj' split rfl
    cases same
    exact Or.inr (answered authorization rfl)
  · rw [List.concat_eq_append, ← List.cons_append, ← List.append_assoc] at split
    obtain ⟨before, -⟩ := List.append_inj' split rfl
    rcases balanced first authorization answer rest' before with ⟨made, held, settles⟩ | waiting
    · exact Or.inl ⟨made, by simp [held], settles⟩
    · exact Or.inr waiting

/-- One more call, that settles an authorization. -/
theorem Balanced.settle {current : Pending} {kept rest : List Pending}
    (balanced : Balanced (kept ++ current :: rest) journal) (settles : Settles current.url ⟨op, ans⟩)
    (neutral : op.answers = false) : Balanced (kept ++ rest) (journal ++ [⟨op, ans⟩]) := by
  intro first authorization answer after split
  rcases List.eq_nil_or_concat after with rfl | ⟨after', last, rfl⟩
  · obtain ⟨-, same⟩ := List.append_inj' split rfl
    cases same
    simp [AcmeOp.answers] at neutral
  · rw [List.concat_eq_append, ← List.cons_append, ← List.append_assoc] at split
    obtain ⟨before, same⟩ := List.append_inj' split rfl
    cases same
    rcases balanced first authorization answer after' before with ⟨made, held, already⟩ | waiting
    · exact Or.inl ⟨made, by simp [held], already⟩
    · by_cases is : authorization = current
      · subst is
        exact Or.inl ⟨_, by simp, settles⟩
      · right
        simpa [is] using waiting

/-- A call that deletes nothing leaves the records. -/
theorem Undeleted.snoc (undeleted : Undeleted journal) (neutral : op.deletes = false) :
    Undeleted (journal ++ [⟨op, ans⟩]) := by
  intro made held
  rcases List.mem_append.mp held with old | new
  · exact undeleted made old
  · obtain rfl := List.mem_singleton.mp new
    exact neutral

end Journal

/-- What holds until the clean-up: nothing is deleted, and what is not settled is in the variable. -/
structure Going (unsettled : List Pending) (journal : List Happened) : Prop where
  balanced : Balanced unsettled journal
  undeleted : Undeleted journal

/-- A call that neither answers nor deletes. -/
def AcmeOp.Neutral (op : AcmeOp) : Prop := op.deletes = false ∧ op.answers = false

theorem AcmeOp.Neutral.allowed {op : AcmeOp} (neutral : op.Neutral) (journal : List Happened) :
    discipline.allows journal op :=
  ⟨fun deletes => absurd deletes (by simp [neutral.1]), fun answers => absurd answers (by simp [neutral.2])⟩

/-- A neutral call goes on. -/
theorem Going.snoc {unsettled : List Pending} {journal : List Happened} {op : AcmeOp} {ans : AcmeAns op}
    (going : Going unsettled journal) (neutral : op.Neutral) : Going unsettled (journal ++ [⟨op, ans⟩]) where
  balanced := by
    apply going.balanced.snoc
    rintro authorization rfl
    simp [AcmeOp.Neutral, AcmeOp.answers] at neutral
  undeleted := going.undeleted.snoc neutral.1

/-- A program of neutral calls. -/
theorem Going.follows {α : Type} {unsettled : List Pending} {journal : List Happened} {p : AcmeProg α}
    (going : Going unsettled journal) (all : Prog.All AcmeOp.Neutral p) :
    Follows discipline (fun _ journal' => Going unsettled journal') journal p :=
  follows_of_all all (fun journal _ neutral _ => neutral.allowed journal)
    (fun _ _ _ neutral going => going.snoc neutral) going

/-! ### Before the attempt -/

variable (crypto : Crypto)

section Placing

theorem all_check {α : Type} (result : Except Failure α) : Prog.All AcmeOp.Neutral (check result : Fallible α).run :=
  trivial

theorem all_request {r : Request} (neutral : (AcmeOp.plain r).Neutral) :
    Prog.All AcmeOp.Neutral (liftM (request r) : Fallible (Reply r)).run := ⟨neutral, fun _ => trivial⟩

theorem all_deactivate (url : String) : Prog.All AcmeOp.Neutral (deactivate url).run := by
  refine all_exceptBind (all_request ⟨rfl, rfl⟩) fun reply => ?_
  cases reply with
  | ok _ => trivial
  | error error =>
      refine all_exceptBind (all_request ⟨rfl, rfl⟩) fun reply => ?_
      refine all_exceptBind (all_check reply) fun response => ?_
      refine all_exceptBind (all_check _) fun authorization => ?_
      split <;> trivial

theorem all_deactivateAll (urls : List String) : Prog.All AcmeOp.Neutral (deactivateAll urls).run := by
  induction urls with
  | nil => trivial
  | cons url rest ih => exact all_exceptBind (all_deactivate url) fun _ => ih

theorem all_readAuthorizations (reads : OrderReads) (urls : List String) :
    Prog.All AcmeOp.Neutral (readAuthorizations crypto reads urls).run := by
  induction urls generalizing reads with
  | nil => trivial
  | cons url rest ih =>
      refine all_exceptBind (all_request ⟨rfl, rfl⟩) fun reply => ?_
      refine all_exceptBind (all_check reply) fun response => ?_
      refine all_exceptBind (all_check _) fun authorization => ?_
      split
      · exact ih _
      · split
        · cases authorization.dnsChallenge with
          | none => trivial
          | some challenge =>
              dsimp only
              split
              · exact ih _
              · exact ih _
        · exact ih _

/-- Placing an order answers no challenge and deletes no record. -/
theorem all_placeOrder (newOrder : String) (identifiers : List String) (left : Nat) :
    Prog.All AcmeOp.Neutral (placeOrder crypto newOrder identifiers left).run := by
  induction left with
  | zero => trivial
  | succ left ih =>
      refine all_exceptBind (all_request ⟨rfl, rfl⟩) fun reply => ?_
      refine all_exceptBind (all_check reply) fun response => ?_
      cases response.location with
      | none => trivial
      | some orderUrl =>
          refine all_exceptBind (all_check _) fun order => ?_
          refine all_exceptBind (all_readAuthorizations crypto {} _) fun reads => ?_
          split
          · trivial
          · exact all_exceptBind (all_deactivateAll _) fun _ => ih

theorem all_showChallenge (pending : List Pending) : Prog.All AcmeOp.Neutral (showChallenge pending).run := by
  cases pending with
  | nil => trivial
  | cons first rest => exact all_exceptBind (all_request ⟨rfl, rfl⟩) fun reply => all_check reply

end Placing

/-! ### The attempt -/

section Attempt

variable {α β : Type} {progress : Progress} {journal : List Happened}

/-- From where the attempt is going, it follows the discipline, and however it ends it is going. -/
def Goes (x : Attempt α) (progress : Progress) (journal : List Happened) : Prop :=
  Follows discipline (fun ended journal' => Going ended.2.unsettled journal') journal (x.run progress)

/-- One part of the attempt after the other. -/
theorem goes_bind {x : Attempt α} {f : α → Attempt β}
    (first : Follows discipline (fun ended journal' => match ended.1 with
      | .ok a => Goes (f a) ended.2 journal'
      | .error _ => Going ended.2.unsettled journal') journal (x.run progress)) :
    Goes (x >>= f) progress journal := by
  refine follows_bind (follows_mono first ?_)
  rintro ⟨result, progress'⟩ journal' ends
  cases result with
  | ok a => exact ends
  | error failure => exact ends

/-- A part that keeps going from anywhere. -/
def Steady (x : Attempt α) : Prop := ∀ progress journal, Going progress.unsettled journal → Goes x progress journal

/-- What goes on may be followed by what is steady. -/
theorem Goes.bind {x : Attempt α} {f : α → Attempt β} (first : Goes x progress journal) (later : ∀ a, Steady (f a)) :
    Goes (x >>= f) progress journal := by
  refine goes_bind (follows_mono first ?_)
  rintro ⟨result, progress'⟩ journal' still
  cases result with
  | ok a => exact later a progress' journal' still
  | error failure => exact still

theorem Steady.bind {x : Attempt α} {f : α → Attempt β} (first : Steady x) (later : ∀ a, Steady (f a)) :
    Steady (x >>= f) := by
  intro progress journal going
  exact (first progress journal going).bind later

theorem steady_pure (a : α) : Steady (pure a : Attempt α) := fun _ _ going => going

theorem steady_throw (failure : Failure) : Steady (throw failure : Attempt α) := fun _ _ going => going

theorem steady_check (result : Except Failure α) : Steady (check result : Attempt α) := fun _ _ going => going

theorem steady_get : Steady (get : Attempt Progress) := fun _ _ going => going

/-- A neutral call may be cut off. -/
theorem steady_await {r : Request} (neutral : (AcmeOp.select r).Neutral) : Steady (await r) := by
  intro progress journal going
  refine ⟨neutral.allowed journal, ?_⟩
  intro answered
  cases answered with
  | none => exact going.snoc neutral
  | some reply => exact going.snoc neutral

/-- A call may be cut off where that is allowed. -/
theorem goes_await {r : Request} {f : Reply r → Attempt β} (allowed : discipline.allows journal (.select r))
    (cut : Going progress.unsettled (journal ++ [⟨.select r, none⟩]))
    (later : ∀ reply, Goes (f reply) progress (journal ++ [⟨.select r, some reply⟩])) :
    Goes (await r >>= f) progress journal := by
  refine ⟨allowed, ?_⟩
  intro answered
  cases answered with
  | none => exact cut
  | some reply => exact later reply

theorem goes_check {result : Except Failure α} {f : α → Attempt β} (going : Going progress.unsettled journal)
    (later : ∀ a, result = .ok a → Goes (f a) progress journal) : Goes (check result >>= f) progress journal := by
  cases result with
  | ok a => exact later a rfl
  | error failure => exact going

theorem goes_modify {change : Progress → Progress} {f : PUnit → Attempt β}
    (later : Goes (f ⟨⟩) (change progress) journal) : Goes (modify change >>= f) progress journal := later

theorem steady_createRecords (wanted : List (String × String)) : Steady (createRecords wanted) := by
  induction wanted with
  | nil => exact steady_pure ()
  | cons record rest ih =>
      refine (steady_await ⟨rfl, rfl⟩).bind fun reply => ?_
      refine (steady_check _).bind fun created => ?_
      refine Steady.bind ?_ fun _ => ih
      exact fun _ _ going => going

theorem steady_readOrder (orderUrl : String) : Steady (readOrder orderUrl) := by
  refine (steady_await ⟨rfl, rfl⟩).bind fun reply => ?_
  exact (steady_check reply).bind fun response => steady_check _

theorem steady_pollOrder (orderUrl status : String) (order : Order) (left : Nat) :
    Steady (pollOrder orderUrl status order left) := by
  induction left generalizing order with
  | zero => exact steady_pure order
  | succ left ih =>
      unfold pollOrder
      split
      · exact steady_pure order
      · refine (steady_await ⟨rfl, rfl⟩).bind fun _ => ?_
        exact (steady_readOrder orderUrl).bind fun order => ih order

theorem steady_finalizeOrder (orderUrl csr : String) (order : Order) : Steady (finalizeOrder orderUrl csr order) := by
  unfold finalizeOrder
  split
  · cases order.finalize with
    | none => exact steady_throw _
    | some url =>
        refine (steady_await ⟨rfl, rfl⟩).bind fun reply => ?_
        exact (steady_check reply).bind fun _ => steady_readOrder orderUrl
  · exact steady_pure order

theorem steady_finish (orderUrl csrPem : String) : Steady (finish crypto orderUrl csrPem) := by
  refine (steady_readOrder orderUrl).bind fun order => ?_
  refine Steady.bind (steady_pollOrder _ _ _ _) fun order => ?_
  refine (steady_check _).bind fun csr => ?_
  refine Steady.bind (steady_finalizeOrder _ _ _) fun order => ?_
  refine Steady.bind (steady_pollOrder _ _ _ _) fun order => ?_
  refine (steady_check _).bind fun url => ?_
  refine (steady_await ⟨rfl, rfl⟩).bind fun reply => ?_
  refine (steady_check reply).bind fun response => ?_
  refine (steady_check _).bind fun issued => ?_
  split
  · exact steady_pure issued
  · exact steady_throw _

/-- An authorization is in the variable before its challenge is answered. -/
theorem steady_answerChallenges (pending : List Pending) : Steady (answerChallenges pending) := by
  induction pending with
  | nil => exact steady_pure ()
  | cons authorization rest ih =>
      intro progress journal going
      have wider : Going (progress.unsettled ++ [authorization]) journal :=
        ⟨going.balanced.mono fun p held => List.mem_append_left _ held, going.undeleted⟩
      have answered (answer : Option (Except Failure Response)) : Going (progress.unsettled ++ [authorization])
          (journal ++ [⟨.select (.answer authorization), answer⟩]) := by
        refine ⟨wider.balanced.snoc ?_, wider.undeleted.snoc rfl⟩
        rintro other is
        cases is
        simp
      apply goes_modify
      apply goes_await
      · exact And.intro (fun deletes => absurd deletes (by simp [AcmeOp.deletes])) (fun _ => going.undeleted)
      · exact answered none
      · intro reply
        exact goes_check (answered (some reply)) fun _ _ => ih _ _ (answered (some reply))

theorem parseAuthorization_ok {response : Response} {authorization : Authorization}
    (decoded : parseAuthorization response = .ok authorization) : response.authorization = some authorization := by
  unfold parseAuthorization parse at decoded
  cases shown : response.authorization with
  | none => simp [shown] at decoded
  | some other =>
      simp only [shown, Option.elim, Except.ok.injEq] at decoded
      rw [decoded]

/-- A round of polls takes an authorization out of the variable when it was shown not to be pending. -/
theorem goes_pollEach (kept todo : List Pending) (at_ : progress.unsettled = kept ++ todo)
    (going : Going progress.unsettled journal) : Goes (pollEach kept todo) progress journal := by
  induction todo generalizing kept progress journal with
  | nil => exact steady_pure () progress journal going
  | cons current rest ih =>
      have still (answer : Option (Except Failure Response)) : Going progress.unsettled
          (journal ++ [⟨.select (.get current.url), answer⟩]) := going.snoc ⟨rfl, rfl⟩
      apply goes_await
      · exact AcmeOp.Neutral.allowed ⟨rfl, rfl⟩ journal
      · exact still none
      · intro reply
        refine goes_check (still (some reply)) fun response read => ?_
        subst read
        refine goes_check (still _) fun authorization decoded => ?_
        have shown : response.authorization = some authorization := parseAuthorization_ok decoded
        have settled (final : authorization.status ≠ "pending") : Going (kept ++ rest)
            (journal ++ [⟨.select (.get current.url), some (.ok response)⟩]) := by
          have balanced := going.balanced
          rw [at_] at balanced
          exact ⟨balanced.settle (.polled shown final) rfl, (still _).undeleted⟩
        split
        · rename_i valid
          apply goes_modify
          exact ih kept rfl (settled (by simp [valid]))
        · split
          · exact ih (kept ++ [current]) (by simpa using at_) (still _)
          · rename_i pending
            apply goes_modify
            split
            · exact steady_throw _ _ _ (settled pending)
            · exact steady_throw _ _ _ (settled pending)

theorem steady_round {f : Unit → Attempt β} (later : ∀ a, Steady (f a)) :
    Steady (get >>= fun progress : Progress => pollEach [] progress.unsettled >>= f) := by
  intro progress journal going
  exact (goes_pollEach [] progress.unsettled rfl going).bind later

/-- The rounds of polls are steady. -/
theorem steady_pollAuthorizations (left : Nat) : Steady (pollAuthorizations left) := by
  induction left with
  | zero =>
      refine steady_round fun _ => ?_
      refine steady_get.bind fun progress => ?_
      split
      · exact steady_pure ()
      · exact steady_throw _
  | succ left ih =>
      refine steady_round fun _ => ?_
      refine steady_get.bind fun progress => ?_
      split
      · exact steady_pure ()
      · exact (steady_await ⟨rfl, rfl⟩).bind fun _ => ih

/-- The attempt is steady. -/
theorem steady_attempt (orderUrl csrPem : String) (pending : List Pending) :
    Steady (attempt crypto orderUrl csrPem pending) := by
  refine (steady_createRecords _).bind fun _ => ?_
  refine steady_get.bind fun progress => ?_
  refine (steady_await ⟨rfl, rfl⟩).bind fun _ => ?_
  refine (steady_answerChallenges pending).bind fun _ => ?_
  exact (steady_pollAuthorizations _).bind fun _ => steady_finish crypto orderUrl csrPem

end Attempt

/-! ### The clean-up -/

section CleanUp

variable {journal : List Happened}

theorem follows_request {α : Type} {r : Request} {f : Reply r → AcmeProg α} {post : α → List Happened → Prop}
    (allowed : discipline.allows journal (.plain r))
    (later : ∀ reply, Follows discipline post (journal ++ [⟨.plain r, reply⟩]) (f reply)) :
    Follows discipline post journal (request r >>= f) := ⟨allowed, later⟩

theorem follows_check {α β : Type} {result : Except Failure α} {f : α → Fallible β}
    {post : Except Failure β → List Happened → Prop} (failed : ∀ failure, post (.error failure) journal)
    (later : ∀ a, result = .ok a → Follows discipline post journal (f a).run) :
    Follows discipline post journal (check result >>= f).run := by
  cases result with
  | ok a => exact later a rfl
  | error failure => exact failed failure

/-- An authorization that `deactivate` says yes to is settled. -/
theorem deactivate_settles {current : Pending} {rest : List Pending} (going : Going (current :: rest) journal) :
    Follows discipline (fun result journal' => Going (current :: rest) journal' ∧
      (result = .ok () → Going rest journal')) journal (deactivate current.url).run := by
  have settle {op : AcmeOp} {ans : AcmeAns op} (before : List Happened) (still : Going (current :: rest) before)
      (settles : Settles current.url ⟨op, ans⟩) (neutral : op.Neutral) : Going rest (before ++ [⟨op, ans⟩]) := by
    have balanced : Balanced ([] ++ current :: rest) before := still.balanced
    exact ⟨balanced.settle settles neutral.2, still.undeleted.snoc neutral.1⟩
  refine follows_request (AcmeOp.Neutral.allowed ⟨rfl, rfl⟩ journal) ?_
  intro reply
  have first : Going (current :: rest) (journal ++ [⟨.plain (.deactivate current.url), reply⟩]) := going.snoc ⟨rfl, rfl⟩
  cases reply with
  | ok response => exact ⟨first, fun _ => settle journal going (.deactivated response) ⟨rfl, rfl⟩⟩
  | error error =>
      refine follows_request (AcmeOp.Neutral.allowed ⟨rfl, rfl⟩ _) ?_
      intro reply
      have second : Going (current :: rest) (journal ++ [⟨.plain (.deactivate current.url), .error error⟩] ++
          [⟨.plain (.get current.url), reply⟩]) := first.snoc ⟨rfl, rfl⟩
      refine follows_check (fun failure => ⟨second, fun is => nomatch is⟩) fun response read => ?_
      subst read
      refine follows_check (fun failure => ⟨second, fun is => nomatch is⟩) fun authorization decoded => ?_
      have shown : response.authorization = some authorization := parseAuthorization_ok decoded
      split
      · exact ⟨second, fun is => nomatch is⟩
      · rename_i final
        exact ⟨second, fun _ => settle _ first (.read shown final) ⟨rfl, rfl⟩⟩

theorem all_settleAll (unsettled : List Pending) : Prog.All AcmeOp.Neutral (settleAll unsettled) := by
  induction unsettled with
  | nil => trivial
  | cons current rest ih =>
      refine all_bind (all_deactivate current.url) fun result => ?_
      cases result with
      | ok _ => exact ih
      | error _ => exact all_bind ih fun _ => trivial

/-- If all were deactivated, nothing is unsettled. -/
theorem settleAll_settles (unsettled : List Pending) (going : Going unsettled journal) :
    Follows discipline (fun settled journal' => settled = true → Balanced [] journal') journal (settleAll unsettled) := by
  induction unsettled generalizing journal with
  | nil => exact fun _ => going.balanced
  | cons current rest ih =>
      refine follows_bind (follows_mono (deactivate_settles going) ?_)
      intro result journal' ends
      cases result with
      | ok _ => exact ih (ends.2 rfl)
      | error _ =>
          refine follows_bind (follows_mono (ends.1.follows (all_settleAll rest)) ?_)
          intro _ _ _ settled
          cases settled

/-- Records are deleted when nothing is unsettled. -/
theorem deleteRecords_follows (records : List TxtRecord) (balanced : Balanced [] journal) :
    Follows discipline (fun _ _ => True) journal (deleteRecords records) := by
  induction records generalizing journal with
  | nil => trivial
  | cons record rest ih =>
      refine follows_request ⟨fun _ => balanced, fun answers => absurd answers (by simp [AcmeOp.answers])⟩ ?_
      intro gone
      apply ih
      apply balanced.snoc
      rintro authorization is
      cases is

/-- So they are in the clean-up. -/
theorem cleanUp_follows (progress : Progress) (going : Going progress.unsettled journal) :
    Follows discipline (fun _ _ => True) journal (cleanUp progress) := by
  refine follows_bind (follows_mono (settleAll_settles progress.unsettled going) ?_)
  intro settled journal' balanced
  cases settled with
  | true => exact deleteRecords_follows progress.records (balanced rfl)
  | false => trivial

end CleanUp

/-! ### The whole issuance -/

/-- The discipline keeps the calls made. -/
theorem journal_foldl (start calls : List Happened) :
    calls.foldl (fun journal made => discipline.next journal made.1 made.2) start = start ++ calls := by
  induction calls generalizing start with
  | nil => simp
  | cons made rest ih =>
      rw [List.foldl_cons, ih]
      simp [discipline]

/-- And in the whole issuance. -/
theorem issue_follows (config : AcmeConfig) (stopping : Bool) (identifiers : List String) (csrPem : String) :
    Follows discipline (fun _ _ => True) [] (issue crypto config stopping identifiers csrPem).run := by
  have start : Going [] [] := ⟨fun first _ _ rest split => by simp at split, fun _ held => by simp at held⟩
  have thenAll {α β : Type} {journal : List Happened} {x : Fallible α} {f : α → Fallible β}
      (going : Going [] journal) (all : Prog.All AcmeOp.Neutral x.run)
      (later : ∀ a journal', Going [] journal' → Follows discipline (fun _ _ => True) journal' (f a).run) :
      Follows discipline (fun _ _ => True) journal (x >>= f).run := by
    refine follows_exceptBind (follows_mono (going.follows all) ?_)
    intro result journal' still
    cases result with
    | ok a => exact later a journal' still
    | error _ => trivial
  refine thenAll start (all_check _) fun _ journal going => ?_
  refine thenAll going (all_check _) fun _ journal going => ?_
  refine thenAll going (all_request ⟨rfl, rfl⟩) fun reply journal going => ?_
  refine thenAll going (all_check reply) fun newOrder journal going => ?_
  refine thenAll going (all_placeOrder crypto newOrder identifiers ordersPerAttempt) fun placed journal going => ?_
  refine thenAll going (all_showChallenge placed.2) fun _ journal going => ?_
  -- from here the variable counts what is answered
  refine follows_bind (follows_bind (follows_mono (steady_attempt crypto placed.1 csrPem placed.2 {} journal going) ?_))
  intro ended journal' still
  refine follows_bind (follows_bind (follows_mono (cleanUp_follows ended.2 still) ?_))
  intro _ _ _
  trivial

/-- In every issuance, whatever is answered and wherever it is cut off: when a challenge record is deleted, every
    authorization whose challenge was answered has been settled since, and none is answered after that. -/
theorem records_outlive_use (config : AcmeConfig) (stopping : Bool) (identifiers : List String) (csrPem : String)
    (journal before after : List Happened) (record : TxtRecord) (gone : Bool)
    (path : Prog.Path (issue crypto config stopping identifiers csrPem).run journal)
    (deleted : journal = before ++ ⟨.plain (.deleteTxt record), gone⟩ :: after) :
    (∀ first authorization answer rest, before = first ++ ⟨.select (.answer authorization), answer⟩ :: rest →
      ∃ made ∈ rest, Settles authorization.url made) ∧
    ∀ made ∈ after, made.1.answers = false := by
  have follows := issue_follows crypto config stopping identifiers csrPem
  constructor
  · intro first authorization answer rest split
    have allowed := path.allowed follows deleted
    rw [journal_foldl] at allowed
    have settled := allowed.1 rfl first authorization answer rest (by simpa using split)
    simpa using settled
  · intro made held
    obtain ⟨later, last, rfl⟩ := List.append_of_mem held
    have split : journal = (before ++ ⟨.plain (.deleteTxt record), gone⟩ :: later) ++ ⟨made.1, made.2⟩ :: last := by
      simpa using deleted
    have allowed := path.allowed follows split
    rw [journal_foldl] at allowed
    cases answers : made.1.answers with
    | false => rfl
    | true =>
        have kept := allowed.2 answers ⟨.plain (.deleteTxt record), gone⟩ (by simp)
        cases kept

/-- A certificate authority with one authorization, that is valid at the first poll. The shutdown comes when the order
    is read after it. -/
def oneValidAnswers : (op : AcmeOp) → AcmeAns op
  | .plain .openSession => .ok "new-order"
  | .plain (.newOrder ..) =>
      .ok { location := some "order", order := some { status := "pending", authorizations := ["a"] } }
  | .plain (.get _) =>
      let challenge : AcmeChallenge := { kind := "dns-01", url := "challenge", token := "token" }
      .ok { authorization := some { status := "pending", identifier := "t.example", challenges := [challenge] } }
  | .plain (.answer _) | .plain (.deactivate _) | .plain (.finalize ..) => .ok {}
  | .plain (.onChallenge ..) => .ok ()
  | .plain (.createTxt name value) => .ok { name := name, value := value, id := none }
  | .plain (.deleteTxt _) => true
  | .plain (.waitForPropagation _) | .plain .sleep => ()
  | .select (.createTxt name value) => some (.ok { name := name, value := value, id := some "id" })
  | .select (.answer _) => some (.ok {})
  | .select (.get url) =>
      if url = "a" then some (.ok { authorization := some { status := "valid", identifier := "t.example" } }) else none
  | .select (.waitForPropagation _) | .select .sleep => some ()
  | .select .openSession | .select (.newOrder ..) | .select (.deactivate _) | .select (.finalize ..)
  | .select (.onChallenge ..) | .select (.deleteTxt _) => none

def sampleCrypto : Crypto where
  recordValue := fun token => "digest of " ++ token
  pemDer := some
  chainFromPem := fun pem => .ok { certificate := pem, chain := "", expiry := "" }
  certifiesKey := fun _ _ => true

def sampleIssue : AcmeProg (Except Failure Issued) :=
  (issue sampleCrypto { eabKid := some "kid", eabHmacKey := some "key", dns := true } false ["t.example"] "csr").run

def samplePending : Pending :=
  { url := "a", identifier := "t.example", challengeUrl := "challenge", token := "token", value := "digest of token" }

def sampleRecord : TxtRecord :=
  { name := "_acme-challenge.t.example", value := "digest of token", id := some "id" }

/-- The authorization was polled before the shutdown, so its record is deleted. -/
theorem records_outlive_use_valid : ∃ journal before after gone,
    (Prog.Path sampleIssue journal ∧ journal = before ++ ⟨.plain (.deleteTxt sampleRecord), gone⟩ :: after) ∧
    (∃ first answer rest, before = first ++ ⟨.select (.answer samplePending), answer⟩ :: rest ∧
      ∃ made ∈ rest, Settles "a" made) ∧ ∀ made ∈ after, made.1.answers = false := by
  have path := Prog.path_along oneValidAnswers 20 sampleIssue
  have calls : (Prog.along oneValidAnswers 20 sampleIssue).map (·.1) =
      [.plain .openSession, .plain (.newOrder "new-order" ["t.example"]), .plain (.get "a"),
        .plain (.onChallenge "token" "digest of token"), .select (.createTxt sampleRecord.name sampleRecord.value),
        .select (.waitForPropagation [sampleRecord])] ++ .select (.answer samplePending) ::
      ([.select (.get "a"), .select (.get "order")] ++ .plain (.deleteTxt sampleRecord) :: []) := by
    decide +kernel
  obtain ⟨first, tail, whole, -, answered⟩ := List.map_eq_append_iff.mp calls
  obtain ⟨⟨op, answer⟩, rest, rfl, rfl, later⟩ := List.map_eq_cons_iff.mp answered
  obtain ⟨polls, tail, rfl, -, ending⟩ := List.map_eq_append_iff.mp later
  obtain ⟨⟨op, gone⟩, after, rfl, rfl, -⟩ := List.map_eq_cons_iff.mp ending
  have split : Prog.along oneValidAnswers 20 sampleIssue =
      (first ++ ⟨.select (.answer samplePending), answer⟩ :: polls) ++
        ⟨.plain (.deleteTxt sampleRecord), gone⟩ :: after := by
    simpa using whole
  obtain ⟨settled, unanswered⟩ := records_outlive_use sampleCrypto _ false _ _ _ _ after sampleRecord gone path split
  exact ⟨_, _, after, gone, ⟨path, split⟩,
    ⟨first, answer, polls, rfl, settled first samplePending answer polls rfl⟩, unanswered⟩

end OpenTunnel.Acme
