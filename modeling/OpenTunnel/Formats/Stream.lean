/-
Module: OpenTunnel.Formats.Stream
Layer: Formats
Purpose: Readers of messages from a stream that arrives in chunks. A piece of what is held is taken off its front, with or
  without a message; when there is no piece, the reader waits for a chunk. When what a piece does is not changed by what
  follows it, the messages and the end are those of the bytes, however they arrive.
Imports: none (Mathlib-free)
Trusted boundary: none (fully proved)
Main exports: Piece, Turn, turn, Got, next, all, Reads, Local, all_reads, Reads.unique, Reached, next_reached
Open obligations: none
-/

namespace OpenTunnel.Formats.Stream

/-- What a reader makes of what it holds. -/
inductive Piece (β α ε σ : Type) where
  | wait
  | fail (error : ε)
  | took (message : Option α) (rest : List β) (state : σ)

/-- Pieces until there is a message. -/
inductive Turn (β α ε σ : Type) where
  | waits (held : List β) (state : σ)
  | fails (error : ε)
  | gives (message : α) (held : List β) (state : σ)

/-- What a reader answers: a message, with the chunks not read yet and what it holds, or how the stream ended. -/
inductive Got (β α ε σ : Type) where
  | message (message : α) (chunks : List (List β)) (held : List β) (state : σ)
  | ended (error : Option ε)

section Readers

variable {β α ε σ : Type} (step : List β → σ → Piece β α ε σ)

def turn : Nat → List β → σ → Option (Turn β α ε σ)
  | 0, _, _ => none
  | fuel + 1, held, s =>
      match step held s with
      | .wait => some (.waits held s)
      | .fail error => some (.fails error)
      | .took (some message) rest s' => some (.gives message rest s')
      | .took none rest s' => turn fuel rest s'

/-- The next message; a read of no bytes is the end, and so is the end of the chunks, perhaps with an error. -/
def next (ends : Option ε) (chunks : List (List β)) (held : List β) (s : σ) : Option (Got β α ε σ) :=
  match turn step (held.length + 1) held s with
  | none => none
  | some (.fails error) => some (.ended (some error))
  | some (.gives message held s) => some (.message message chunks held s)
  | some (.waits held s) =>
      match chunks with
      | [] => some (.ended ends)
      | chunk :: chunks => if chunk.isEmpty then some (.ended none) else next ends chunks (held ++ chunk) s

/-- All messages, and how the stream ended. -/
def all (ends : Option ε) : Nat → List (List β) → List β → σ → Option (List α × Option ε)
  | 0, _, _, _ => none
  | fuel + 1, chunks, held, s =>
      match next step ends chunks held s with
      | none => none
      | some (.ended error) => some ([], error)
      | some (.message message chunks held s) =>
          (all ends fuel chunks held s).map fun found => (message :: found.1, found.2)

/-- What the bytes say, read at once. -/
inductive Reads (ends : Option ε) : List β → σ → List α → Option ε → Prop where
  | wait {data s} : step data s = .wait → Reads ends data s [] ends
  | fail {data s error} : step data s = .fail error → Reads ends data s [] (some error)
  | took {data s message rest s' messages error} : step data s = .took message rest s' →
      Reads ends rest s' messages error → Reads ends data s (message.toList ++ messages) error

/-- A piece takes something, and what it does is the same whatever follows. -/
structure Local : Prop where
  shorter : ∀ {data s message rest s'}, step data s = .took message rest s' → rest.length < data.length
  took : ∀ {data s message rest s'} more, step data s = .took message rest s' →
    step (data ++ more) s = .took message (rest ++ more) s'
  fail : ∀ {data s error} more, step data s = .fail error → step (data ++ more) s = .fail error

variable {step} {ends : Option ε}

theorem Reads.unique {data : List β} {s : σ} {messages messages' : List α} {error error' : Option ε}
    (one : Reads step ends data s messages error) (other : Reads step ends data s messages' error') :
    messages = messages' ∧ error = error' := by
  induction one generalizing messages' error' with
  | wait is =>
      cases other with
      | wait _ => exact ⟨rfl, rfl⟩
      | fail is' => cases is.symm.trans is'
      | took is' _ => cases is.symm.trans is'
  | fail is =>
      cases other with
      | wait is' => cases is.symm.trans is'
      | fail is' =>
          cases is.symm.trans is'
          exact ⟨rfl, rfl⟩
      | took is' _ => cases is.symm.trans is'
  | took is _ ih =>
      cases other with
      | wait is' => cases is.symm.trans is'
      | fail is' => cases is.symm.trans is'
      | took is' rest =>
          cases is.symm.trans is'
          obtain ⟨rfl, rfl⟩ := ih rest
          exact ⟨rfl, rfl⟩

/-! ### Chunks -/

/-- What a turn says of the bytes held and those that follow them. -/
def TurnReads (step : List β → σ → Piece β α ε σ) (ends : Option ε) (held : List β) (s : σ) : Turn β α ε σ → Prop
  | .waits held' s' => step held' s' = .wait ∧ held'.length ≤ held.length ∧ ∀ {more messages error},
      Reads step ends (held' ++ more) s' messages error → Reads step ends (held ++ more) s messages error
  | .fails error => ∀ more, Reads step ends (held ++ more) s [] (some error)
  | .gives message held' s' => held'.length < held.length ∧ ∀ {more messages error},
      Reads step ends (held' ++ more) s' messages error → Reads step ends (held ++ more) s (message :: messages) error

theorem turn_reads (ends : Option ε) (local_ : Local step) {fuel : Nat} {held : List β} (s : σ) (enough : held.length < fuel) :
    ∃ t, turn step fuel held s = some t ∧ TurnReads step ends held s t := by
  induction fuel generalizing held s with
  | zero => exact absurd enough (Nat.not_lt_zero _)
  | succ fuel ih =>
      rw [turn]
      cases is : step held s with
      | wait => exact ⟨_, rfl, is, Nat.le_refl _, fun read => read⟩
      | fail error => exact ⟨_, rfl, fun more => .fail (local_.fail more is)⟩
      | took message rest s' =>
          have shorter := local_.shorter is
          cases message with
          | some message =>
              refine ⟨_, rfl, shorter, fun read => ?_⟩
              exact Reads.took (local_.took _ is) read
          | none =>
              obtain ⟨t, done, says_⟩ := ih s' (by omega : rest.length < fuel)
              refine ⟨t, done, ?_⟩
              cases t with
              | waits held' s'' =>
                  exact ⟨says_.1, Nat.le_trans says_.2.1 (Nat.le_of_lt shorter),
                    fun read => Reads.took (local_.took _ is) (says_.2.2 read)⟩
              | fails error => exact fun more => Reads.took (local_.took _ is) (says_ more)
              | gives message held' s'' =>
                  exact ⟨Nat.lt_trans says_.1 shorter, fun read => Reads.took (local_.took _ is) (says_.2 read)⟩

/-- What an answer says of the bytes held and those of the chunks. -/
def GotReads (step : List β → σ → Piece β α ε σ) (ends : Option ε) (chunks : List (List β)) (held : List β) (s : σ) :
    Got β α ε σ → Prop
  | .message message chunks' held' s' =>
      (∀ chunk ∈ chunks', chunk ≠ []) ∧ (held' ++ chunks'.flatten).length < (held ++ chunks.flatten).length ∧
        ∀ {messages error}, Reads step ends (held' ++ chunks'.flatten) s' messages error →
          Reads step ends (held ++ chunks.flatten) s (message :: messages) error
  | .ended error => Reads step ends (held ++ chunks.flatten) s [] error

theorem next_reads (ends : Option ε) (local_ : Local step) {chunks : List (List β)} (some_ : ∀ chunk ∈ chunks, chunk ≠ [])
    (held : List β) (s : σ) : ∃ got, next step ends chunks held s = some got ∧ GotReads step ends chunks held s got := by
  induction chunks generalizing held s with
  | nil =>
      obtain ⟨t, done, says_⟩ := turn_reads ends local_ s (by omega : held.length < held.length + 1)
      rw [next.eq_def, done]
      cases t with
      | waits held' s' => exact ⟨_, rfl, says_.2.2 (.wait (by simpa using says_.1))⟩
      | fails error => exact ⟨_, rfl, says_ _⟩
      | gives message held' s' => exact ⟨_, rfl, some_, by simpa using says_.1, says_.2⟩
  | cons chunk chunks ih =>
      obtain ⟨t, done, says_⟩ := turn_reads ends local_ s (by omega : held.length < held.length + 1)
      rw [next.eq_def, done]
      cases t with
      | waits held' s' =>
          have bytes : chunk.isEmpty = false := by
            simpa using some_ chunk List.mem_cons_self
          obtain ⟨got, found, reads⟩ := ih (fun c listed => some_ c (List.mem_cons_of_mem _ listed)) (held' ++ chunk) s'
          have joined : held' ++ chunk ++ chunks.flatten = held' ++ (chunk :: chunks).flatten := by simp
          refine ⟨got, by simpa [bytes] using found, ?_⟩
          cases got with
          | message message chunks' held'' s'' =>
              obtain ⟨left, less, read⟩ := reads
              rw [joined] at less read
              exact ⟨left, Nat.lt_of_lt_of_le less (by simpa using says_.2.1), fun rest => says_.2.2 (read rest)⟩
          | ended error =>
              rw [GotReads, joined] at reads
              exact says_.2.2 reads
      | fails error => exact ⟨_, rfl, says_ _⟩
      | gives message held' s' => exact ⟨_, rfl, some_, by simpa using says_.1, says_.2⟩

/-- The messages and the end are those of the bytes. -/
theorem all_reads (ends : Option ε) (local_ : Local step) {fuel : Nat} {chunks : List (List β)} (some_ : ∀ chunk ∈ chunks, chunk ≠ [])
    {held : List β} (s : σ) (enough : (held ++ chunks.flatten).length < fuel) :
    ∃ messages error, all step ends fuel chunks held s = some (messages, error) ∧
      Reads step ends (held ++ chunks.flatten) s messages error := by
  induction fuel generalizing chunks held s with
  | zero => exact absurd enough (Nat.not_lt_zero _)
  | succ fuel ih =>
      obtain ⟨got, found, reads⟩ := next_reads ends local_ some_ held s
      rw [all, found]
      cases got with
      | ended error => exact ⟨[], error, rfl, reads⟩
      | message message chunks' held' s' =>
          obtain ⟨left, less, read⟩ := reads
          obtain ⟨messages, error, rest, reads⟩ := ih left s' (Nat.lt_of_lt_of_le less (Nat.le_of_lt_succ enough))
          exact ⟨message :: messages, error, congrArg (Option.map fun found => (message :: found.1, found.2)) rest, read reads⟩

/-! ### Invariants -/

/-- Where a reader of these chunks can be. -/
inductive Reached (step : List β → σ → Piece β α ε σ) (start : σ) : List (List β) → List (List β) → List β → σ → Prop where
  | start {chunks} : Reached step start chunks chunks [] start
  | took {all chunks held s message rest s'} : Reached step start all chunks held s → step held s = .took message rest s' →
      Reached step start all chunks rest s'
  | read {all chunk chunks held s} : Reached step start all (chunk :: chunks) held s → step held s = .wait →
      Reached step start all chunks (held ++ chunk) s

section Reached

variable {start : σ} {given chunks : List (List β)} {held : List β} {s : σ}

/-- What every piece keeps holds wherever the reader is. -/
theorem Reached.invariant {Holds : σ → Prop} (first : Holds start)
    (keeps : ∀ {data s message rest s'}, Holds s → step data s = .took message rest s' → Holds s')
    (reached : Reached step start given chunks held s) : Holds s := by
  induction reached with
  | start => exact first
  | took _ is ih => exact keeps ih is
  | read _ _ ih => exact ih

/-- Where a turn leaves the reader. -/
def TurnReached (step : List β → σ → Piece β α ε σ) (start : σ) (given chunks : List (List β)) : Turn β α ε σ → Prop
  | .waits held s => Reached step start given chunks held s ∧ step held s = .wait
  | .fails _ => True
  | .gives _ held s => Reached step start given chunks held s

theorem turn_reached {fuel : Nat} {t : Turn β α ε σ} (done : turn step fuel held s = some t)
    (reached : Reached step start given chunks held s) : TurnReached step start given chunks t := by
  induction fuel generalizing held s with
  | zero => cases done
  | succ fuel ih =>
      rw [turn] at done
      split at done
      · rename_i is
        cases done
        exact ⟨reached, is⟩
      · cases done
        trivial
      · rename_i is
        cases done
        exact reached.took is
      · rename_i is
        exact ih done (reached.took is)

/-- From one message to the next, the reader is only where it can be. -/
theorem next_reached {message : α} {chunks' : List (List β)} {held' : List β} {s' : σ}
    (done : next step ends chunks held s = some (.message message chunks' held' s'))
    (reached : Reached step start given chunks held s) : Reached step start given chunks' held' s' := by
  induction chunks generalizing held s with
  | nil =>
      rw [next.eq_def] at done
      split at done
      · cases done
      · cases done
      · rename_i is
        cases done
        exact turn_reached is reached
      · cases done
  | cons chunk chunks ih =>
      rw [next.eq_def] at done
      split at done
      · cases done
      · cases done
      · rename_i is
        cases done
        exact turn_reached is reached
      · rename_i is
        obtain ⟨there, waits⟩ := turn_reached is reached
        dsimp only at done
        split at done
        · cases done
        · exact ih done (there.read waits)

end Reached

end Readers

end OpenTunnel.Formats.Stream
