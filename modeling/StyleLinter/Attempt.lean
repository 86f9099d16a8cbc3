import StyleLinter.Failure

/-!
# Attempts

What the linter does on a host can fail, and it leaves a trail: log entries, commands that ran, and
questions put to a lister. An **attempt** has both, the notes in the order in which they were made
and then a value or a failure. Attempts are put one after the other as usual: the first failure ends
the sequence, and the notes up to there stay.
-/

namespace StyleLinter

/-- What is noted on the way. -/
inductive Note where
  /-- A command is about to run in a directory. -/
  | running (command : List Text) (directory : Path)
  /-- A command ran, with these arguments. -/
  | ran (arguments : List Text)
  /-- A lister was asked for the files under a root with an extension. -/
  | asked (root extension : Text)
  /-- A listing names a file that is not there. -/
  | staleEntry (path : Path)
  /-- So many files with an extension are under a root. -/
  | found (count : Nat) (extension root : Text)
  /-- So many files were checked. -/
  | checked (files new suppressed : Nat)
  /-- A build file in sections was loaded. -/
  | loadedSections (path : Path) (name : Text) (libraries : List Text)
  /-- A build file in declarations was loaded. -/
  | loadedDeclarations (path : Path) (name : Text) (libraries : List Text)
  /-- The libraries of the primary project were adjusted. -/
  | adjusted (name : Text) (libraries : List Text)
  /-- There is no exception list, and none is needed. -/
  | noList (path : Path)
  /-- An aggregator is out of date. -/
  | outOfDate (path : Path)
  /-- An aggregator was written, with so many imports. -/
  | updated (path : Path) (imports : Nat)
deriving DecidableEq, Repr

/-- How loud a log entry is. -/
inductive Level where
  /-- For those who look for an error in the linter. -/
  | debug
  /-- What the linter did. -/
  | info
  /-- What people should know. -/
  | warning
deriving DecidableEq, Repr

/-- The name of a level. -/
def Level.name : Level → Text
  | debug => "DEBUG"
  | info => "INFO"
  | warning => "WARNING"

/-- The texts, each quoted, in parentheses; a comma follows a single one. -/
def quotedTuple (ts : List Text) : Text :=
  match ts with
  | [t] => "(" ++ Text.quoted t ++ ",)"
  | ts => "(" ++ Text.joinWith ", " (ts.map Text.quoted) ++ ")"

/-- The log entry that a note makes, if it makes one. -/
def Note.entry? : Note → Option (Level × Text)
  | running c d => some (.debug, "running " ++ Text.quotedList c ++ " in " ++ d.toText)
  | ran _ => none
  | asked .. => none
  | staleEntry p => some (.debug, "dropping stale listing entry " ++ p.toText)
  | found n e r => some (.debug, "found " ++ Text.ofNat n ++ " " ++ e ++ " files under " ++ r)
  | checked n new suppressed =>
    some (.debug, "linted " ++ Text.ofNat n ++ " files: " ++ Text.ofNat new ++ " new, "
      ++ Text.ofNat suppressed ++ " suppressed violations")
  | loadedSections p n ls =>
    some (.debug, "loaded " ++ p.toText ++ ": package " ++ n ++ ", libraries "
      ++ Text.quotedList ls)
  | loadedDeclarations p n ls =>
    some (.debug, "loaded " ++ p.toText ++ ": package " ++ n ++ ", libraries " ++ quotedTuple ls)
  | adjusted n ls =>
    some (.debug, "resolved libraries of primary project " ++ n ++ ": " ++ Text.quotedList ls)
  | noList p => some (.debug, "no exception list at " ++ p.toText)
  | outOfDate p => some (.warning, p.toText ++ " is out of date")
  | updated p n => some (.info, "updated " ++ p.toText ++ " (" ++ Text.ofNat n ++ " imports)")

/-- A trail of notes, and what it leads to. -/
structure Attempt (α : Type) where
  /-- The notes, in order. -/
  notes : List Note
  /-- The value, or the failure that ended the attempt. -/
  outcome : Except Failure α

namespace Attempt

variable {α β : Type}

/-- The attempt that has its value at once. -/
def ok (a : α) : Attempt α := ⟨[], .ok a⟩

/-- The attempt that fails at once. -/
def fail (f : Failure) : Attempt α := ⟨[], .error f⟩

/-- An attempt followed by another one. -/
def andThen (x : Attempt α) (f : α → Attempt β) : Attempt β :=
  match x.outcome with
  | .ok a => ⟨x.notes ++ (f a).notes, (f a).outcome⟩
  | .error e => ⟨x.notes, .error e⟩

instance : Monad Attempt where
  pure := ok
  bind := andThen

theorem bind_def (x : Attempt α) (f : α → Attempt β) : x >>= f = x.andThen f := rfl

theorem pure_def (a : α) : (pure a : Attempt α) = ok a := rfl

@[simp] theorem outcome_ok (a : α) : (ok a).outcome = .ok a := rfl

@[simp] theorem outcome_fail (f : Failure) : (fail f : Attempt α).outcome = .error f := rfl

/-- **A sequence of attempts ends the way its parts end, one after the other.** -/
theorem outcome_bind (x : Attempt α) (f : α → Attempt β) :
    (x >>= f).outcome = x.outcome >>= fun a ↦ (f a).outcome := by
  rw [bind_def, andThen]
  cases h : x.outcome <;> rfl

theorem id_map_attempt (x : Attempt α) : id <$> x = x := by
  change andThen x (fun a ↦ ok (id a)) = x
  rcases x with ⟨n, _ | a⟩ <;> simp [andThen, ok]

theorem pure_bind_attempt (a : α) (f : α → Attempt β) : (pure a : Attempt α) >>= f = f a := by
  change andThen (ok a) f = f a
  simp [andThen, ok]

theorem bind_assoc_attempt {γ : Type} (x : Attempt α) (f : α → Attempt β) (g : β → Attempt γ) :
    x >>= f >>= g = x >>= fun a ↦ f a >>= g := by
  change andThen (andThen x f) g = andThen x fun a ↦ andThen (f a) g
  rcases x with ⟨n, _ | a⟩
  · rfl
  · simp only [andThen]
    cases (f a).outcome <;> simp

instance : LawfulMonad Attempt :=
  LawfulMonad.mk' Attempt id_map_attempt pure_bind_attempt bind_assoc_attempt

/-- Makes a note. -/
def note (n : Note) : Attempt Unit := ⟨[n], .ok ()⟩

/-- The attempt that is decided already. -/
def ofExcept (x : Except Failure α) : Attempt α := ⟨[], x⟩

instance : MonadLift (Except Failure) Attempt := ⟨ofExcept⟩

end Attempt

end StyleLinter
