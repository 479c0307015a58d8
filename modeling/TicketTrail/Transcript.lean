/-!
# Transcripts

What a command prints: the lines of its results, and apart from them the lines of its notices. A
command is a sequence of steps, each of which prints something and then goes on with a value or
fails. What was printed before a failure stays printed.

## Main results

* `Transcript.append_assoc` — transcripts are put one after another;
* `Step.bind_ok`, `Step.bind_error` — what a sequence of steps prints, and what it comes to.
-/

namespace TicketTrail

/-- The lines that were printed. -/
structure Transcript where
  results : List String := []
  notices : List String := []
deriving Repr, DecidableEq, Inhabited

namespace Transcript

/-- One transcript after another. -/
def append (s t : Transcript) : Transcript :=
  ⟨s.results ++ t.results, s.notices ++ t.notices⟩

instance : Append Transcript := ⟨append⟩

/-- The transcript in which nothing is printed. -/
def empty : Transcript := {}

/-- A transcript of result lines. -/
def ofResults (lines : List String) : Transcript := { results := lines }

/-- A transcript of notices. -/
def ofNotices (lines : List String) : Transcript := { notices := lines }

/-- Lines as they are written, each with its end. -/
def linesText (lines : List String) : String :=
  String.join (lines.map (· ++ "\n"))

/-- The results as they are written. -/
def resultText (t : Transcript) : String :=
  linesText t.results

/-- The notices as they are written. -/
def noticeText (t : Transcript) : String :=
  linesText t.notices

@[simp] theorem results_append (s t : Transcript) : (s ++ t).results = s.results ++ t.results := rfl

@[simp] theorem notices_append (s t : Transcript) : (s ++ t).notices = s.notices ++ t.notices := rfl

theorem ext {s t : Transcript} (hResults : s.results = t.results)
    (hNotices : s.notices = t.notices) : s = t := by
  cases s
  cases t
  simp_all

@[simp] theorem empty_append (t : Transcript) : empty ++ t = t := rfl

@[simp] theorem append_empty (t : Transcript) : t ++ empty = t := by
  apply ext <;> simp [empty]

theorem append_assoc (s t u : Transcript) : s ++ t ++ u = s ++ (t ++ u) := by
  apply ext <;> simp

end Transcript

/-- A part of a command: what it prints, and its value or why it failed. -/
structure Step (ε α : Type) where
  printed : Transcript
  result : Except ε α

namespace Step

variable {ε α β : Type}

/-- One step, and when it does not fail the step that goes on with its value. -/
def andThen (s : Step ε α) (next : α → Step ε β) : Step ε β :=
  match s.result with
  | .ok a => ⟨s.printed ++ (next a).printed, (next a).result⟩
  | .error e => ⟨s.printed, .error e⟩

instance : Monad (Step ε) where
  pure a := ⟨.empty, .ok a⟩
  bind := andThen

/-- The step that only prints. -/
def print (t : Transcript) : Step ε Unit :=
  ⟨t, .ok ()⟩

/-- The step that prints nothing. -/
def silent (result : Except ε α) : Step ε α :=
  ⟨.empty, result⟩

/-- The step with another account of why it failed. -/
def mapError {δ : Type} (f : ε → δ) (s : Step ε α) : Step δ α :=
  ⟨s.printed, s.result.mapError f⟩

/-- A step that succeeds goes on with its value. -/
theorem bind_ok {t : Transcript} {a : α} {next : α → Step ε β} :
    (Step.mk t (.ok a) >>= next) = ⟨t ++ (next a).printed, (next a).result⟩ := rfl

/-- A step that fails ends the sequence. -/
theorem bind_error {t : Transcript} {e : ε} {next : α → Step ε β} :
    (Step.mk t (.error e) >>= next) = ⟨t, .error e⟩ := rfl

theorem print_bind {t : Transcript} {next : Unit → Step ε β} :
    (print t >>= next) = ⟨t ++ (next ()).printed, (next ()).result⟩ := rfl

end Step

end TicketTrail
