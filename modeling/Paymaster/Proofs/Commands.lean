import Mathlib
import Paymaster.Command.Console
import Paymaster.Proofs.Actions

/-!
# What a command prints

A command is a run of small steps on a console: it prints, calls the server, and ends.  This file
takes a run apart (`Job.on_bind`) and says what the steps leave behind.

**Streams.**  A stream takes some lines or not (`Stream.Takes`).  Of lines that are printed one by
one, those stay that stand before the first that is not taken (`Job.on_forM_print`).

**Printing.**  `Prints job lines` says that a part of a command, on a stream that takes some lines,
does nothing but print them: it adds them to what was printed before, calls nobody and does not end
the command.  Such parts compose along a sequence, and the lines with them (`Prints.append`,
`Prints.lines`).

**Whole commands.**  What a command leaves behind is read off the run of its job on the console that
it begins with (`runJob_eq`).
-/

namespace Paymaster

namespace Text

lemma append_assoc (a b c : Text) : a ++ b ++ c = a ++ (b ++ c) :=
  congrArg Text.mk (List.append_assoc a.points b.points c.points)

lemma append_empty (a : Text) : a ++ ofString "" = a :=
  congrArg Text.mk (List.append_nil a.points)

/-- Some lines, each with its end. -/
def unlines : List Text → Text
  | [] => ofString ""
  | line :: rest => line ++ ofString "\n" ++ unlines rest

lemma unlines_append (lines others : List Text) :
    unlines (lines ++ others) = unlines lines ++ unlines others := by
  induction lines with
  | nil => rfl
  | cons line rest ih => rw [List.cons_append, unlines, unlines, ih, ← append_assoc]

lemma unlines_singleton (line : Text) : unlines [line] = line ++ ofString "\n" :=
  append_empty _

/-- All code points of a text are ASCII. -/
def IsAscii (t : Text) : Prop :=
  ∀ p ∈ t.points, p.isAscii = true

instance (t : Text) : Decidable t.IsAscii :=
  inferInstanceAs (Decidable (∀ p ∈ t.points, p.isAscii = true))

lemma isAscii_ofChars {cs : List Char} (h : ∀ c ∈ cs, c.toNat < 128) : (ofChars cs).IsAscii := by
  intro p hp
  obtain ⟨c, hc, rfl⟩ := List.mem_map.mp hp
  exact decide_eq_true (h c hc)

lemma IsAscii.append {t u : Text} (ht : t.IsAscii) (hu : u.IsAscii) : (t ++ u).IsAscii :=
  List.forall_mem_append.mpr ⟨ht, hu⟩

/-- **Every set of characters holds ASCII.** -/
lemma IsAscii.fault? {t : Text} (h : t.IsAscii) (charset : Charset) : charset.fault? t = none := by
  have hholds : ∀ p ∈ t.points, charset.holds p = true := by
    intro p hp
    have hascii := h p hp
    cases charset with
    | ascii => exact hascii
    | unicode =>
        cases p with
        | char c => rfl
        | half index =>
            have hlt : CodePoint.halfBase + index < 128 := of_decide_eq_true hascii
            rw [CodePoint.halfBase] at hlt
            omega
  rw [Charset.fault?, List.dropWhile_eq_nil_iff.mpr hholds]

end Text

namespace Command

open Rpc

/-! ## Running a job -/

namespace Job

variable {α β : Type}

/-- Runs a job on a console. -/
def on (job : Job α) (c : Console) : Except Ending α × Console :=
  job.run.run c

lemma on_bind (job : Job α) (next : α → Job β) (c : Console) :
    (job >>= next).on c = match job.on c with
      | (.ok a, c') => (next a).on c'
      | (.error e, c') => (.error e, c') := by
  rw [on, on, ExceptT.run_bind, StateT.run_bind]
  generalize (job.run.run c : Except Ending α × Console) = out
  obtain ⟨r, c'⟩ := out
  cases r <;> rfl

/-- A job goes on from where its first part has come to. -/
lemma on_bind_of_ok {job : Job α} {a : α} {c c' : Console} (h : job.on c = (.ok a, c'))
    (next : α → Job β) : (job >>= next).on c = (next a).on c' := by
  rw [on_bind, h]

/-- A job has ended when its first part has. -/
lemma on_bind_of_error {job : Job α} {e : Ending} {c c' : Console} (h : job.on c = (.error e, c'))
    (next : α → Job β) : (job >>= next).on c = (.error e, c') := by
  rw [on_bind, h]

/-- An attempt gives what the action comes to, and leaves the exchange as the action does. -/
lemma on_attempt (action : Action α) (c : Console) :
    (attempt action).on c
      = (.ok (action.on c.exchange).1, { c with exchange := (action.on c.exchange).2 }) := rfl

/-- What comes behind an attempt is run with its result, on the exchange that the action leaves. -/
lemma on_attempt_bind (action : Action α) (next : Except Error α → Job β) (stream : Stream)
    (output errors : Text) (s : Exchange) :
    (attempt action >>= next).on ⟨stream, output, errors, s⟩
      = (next (action.on s).1).on ⟨stream, output, errors, (action.on s).2⟩ :=
  on_bind_of_ok (on_attempt action _) next

lemma on_exit (code : ℕ) (c : Console) : (exit code : Job α).on c = (.error (.exit code), c) := rfl

/-- A job that comes to something is not rescued. -/
lemma on_rescue_of_ok {job : Job Unit} {u : Unit} {c c' : Console} (h : job.on c = (.ok u, c'))
    (handler : Error → Job Unit) : (rescue job handler).on c = (.ok u, c') := by
  rw [on, ExceptT.run] at h
  show (ExceptT.run (ExceptT.tryCatch job _)).run c = _
  rw [ExceptT.tryCatch, ExceptT.run_mk, StateT.run_bind, h]
  rfl

/-- **A rescue goes on from where the job has failed**: what was done before stays. -/
lemma on_rescue_of_failed {job : Job Unit} {e : Error} {c c' : Console}
    (h : job.on c = (.error (.failed e), c')) (handler : Error → Job Unit) :
    (rescue job handler).on c = (handler e).on c' := by
  rw [on, ExceptT.run] at h
  show (ExceptT.run (ExceptT.tryCatch job _)).run c = _
  rw [ExceptT.tryCatch, ExceptT.run_mk, StateT.run_bind, h]
  rfl

end Job

open Job

/-! ## Streams -/

namespace Stream

/-- All of some lines can be printed. -/
def Takes (stream : Stream) (lines : List Text) : Prop :=
  ∀ line ∈ lines, stream.fault? line = none

/-- The first fault among some lines, if there is one. -/
def firstFault? (stream : Stream) (lines : List Text) : Option Text.Charset.Fault :=
  lines.findSome? stream.fault?

/-- The lines before the first that has a fault. -/
def taken (stream : Stream) (lines : List Text) : List Text :=
  lines.takeWhile fun line => (stream.fault? line).isNone

variable {stream : Stream} {lines : List Text}

lemma firstFault?_eq_none_iff : stream.firstFault? lines = none ↔ stream.Takes lines :=
  List.findSome?_eq_none_iff

lemma taken_of_takes (h : stream.Takes lines) : stream.taken lines = lines :=
  List.takeWhile_eq_self_iff.mpr fun line hline => Option.isNone_iff_eq_none.mpr (h line hline)

lemma takes_append {others : List Text} :
    stream.Takes (lines ++ others) ↔ stream.Takes lines ∧ stream.Takes others :=
  List.forall_mem_append

/-- A text in memory takes all lines. -/
lemma takes_memory (lines : List Text) : memory.Takes lines := fun _ _ => rfl

/-- **Any stream takes lines of ASCII.** -/
lemma takes_of_isAscii (stream : Stream) (h : ∀ line ∈ lines, line.IsAscii) :
    stream.Takes lines := by
  intro line hline
  cases stream with
  | memory => rfl
  | bytes charset => exact (h line hline).fault? charset

/-- Behind lines that are taken, a line that is not is the first. -/
lemma firstFault?_of_fault {line : Text} {fault : Text.Charset.Fault} (h : stream.Takes lines)
    (hfault : stream.fault? line = some fault) (others : List Text) :
    stream.firstFault? (lines ++ line :: others) = some fault
      ∧ stream.taken (lines ++ line :: others) = lines := by
  constructor
  · have hnone : lines.findSome? stream.fault? = none := firstFault?_eq_none_iff.mpr h
    rw [firstFault?, List.findSome?_append, hnone, Option.none_or, List.findSome?_cons, hfault]
  · have hlines : ∀ line ∈ lines, (stream.fault? line).isNone = true := fun line hline =>
      Option.isNone_iff_eq_none.mpr (h line hline)
    rw [taken, List.takeWhile_append_of_pos hlines, List.takeWhile_cons, hfault]
    exact List.append_nil lines

end Stream

/-! ## Printing -/

/-- A console on which one text more is printed. -/
def Console.printed (c : Console) (text : Text) : Console :=
  { c with output := c.output ++ text }

lemma Console.printed_printed (c : Console) (text other : Text) :
    (c.printed text).printed other = c.printed (text ++ other) := by
  simp only [printed, Text.append_assoc]

namespace Job

lemma on_print (line : Text) (c : Console) :
    (print line).on c = match c.stream.fault? line with
      | none => (.ok (), c.printed (Text.unlines [line]))
      | some fault => (.error (.failed (.unencodable fault)), c) := by
  rw [Text.unlines_singleton, ← c.printed_printed]
  show (match c.stream.fault? line with
    | none => set { c with output := c.output ++ line ++ "\n" }
    | some fault => throw (.failed (.unencodable fault)) : Job Unit).on c = _
  cases c.stream.fault? line <;> rfl

/-- **Lines are printed up to the first that the stream does not take**, and its fault ends the
command. -/
theorem on_forM_print (lines : List Text) (c : Console) :
    (lines.forM print).on c
      = (match c.stream.firstFault? lines with
          | none => .ok ()
          | some fault => .error (.failed (.unencodable fault)),
        c.printed (Text.unlines (c.stream.taken lines))) := by
  induction lines generalizing c with
  | nil =>
      have hnothing : c.printed (Text.unlines []) = c :=
        congrArg (fun output => { c with output }) (Text.append_empty c.output)
      rw [Stream.taken, List.takeWhile_nil, hnothing]
      rfl
  | cons line rest ih =>
      show (print line >>= fun _ => rest.forM print).on c = _
      rw [on_bind, on_print]
      cases hfault : c.stream.fault? line with
      | none =>
          simp only [ih, Console.printed_printed, Stream.firstFault?, Stream.taken, hfault,
            List.findSome?_cons, List.takeWhile_cons, Option.isNone_none, if_true,
            ← Text.unlines_append, List.singleton_append]
          rfl
      | some fault =>
          simp only [Stream.firstFault?, Stream.taken, hfault, List.findSome?_cons,
            List.takeWhile_cons, Option.isNone_some, Bool.false_eq_true, if_false]
          rw [Text.unlines, Console.printed, Text.append_empty]

end Job

/-- All that a job does is to print some lines, where they are taken. -/
def Prints (job : Job Unit) (lines : List Text) : Prop :=
  ∀ c : Console, c.stream.Takes lines → job.on c = (.ok (), c.printed (Text.unlines lines))

namespace Prints

variable {job next : Job Unit} {shown others : List Text}

/-- What comes behind a print-out is run where that is printed. -/
lemma on_then {α : Type} {next : Job α} {stream : Stream} (h : Prints job shown)
    (htakes : stream.Takes shown) (output errors : Text) (s : Exchange) :
    (do job; next : Job α).on ⟨stream, output, errors, s⟩
      = next.on ⟨stream, output ++ Text.unlines shown, errors, s⟩ :=
  on_bind_of_ok (h ⟨stream, output, errors, s⟩ htakes) fun _ => next

lemma forM (shown : List Text) : Prints (shown.forM print) shown := by
  intro c htakes
  rw [on_forM_print, Stream.firstFault?_eq_none_iff.mpr htakes, Stream.taken_of_takes htakes]

lemma nothing : Prints (pure ()) [] := forM []

lemma line (text : Text) : Prints (print text) [text] := by
  intro c htakes
  rw [on_print, htakes text (List.mem_singleton_self _)]

/-- **Lines are printed one behind the other.** -/
lemma append (h : Prints job shown) (h' : Prints next others) :
    Prints (do job; next) (shown ++ others) := by
  intro c htakes
  obtain ⟨hfirst, hrest⟩ := Stream.takes_append.mp htakes
  rw [on_bind_of_ok (h c hfirst), h' (c.printed _) hrest, Console.printed_printed,
    Text.unlines_append]

/-- **A line for each element of a list** is printed below the one before. -/
lemma lines {α : Type} (lineOf : α → Text) (xs : List α) :
    Prints (xs.forM fun x => print (lineOf x)) (xs.map lineOf) := by
  have hmap : (xs.map lineOf).forM print = xs.forM fun x => print (lineOf x) := List.forM_map
  rw [← hmap]
  exact forM _

/-- What can be printed is not rescued. -/
lemma rescue (h : Prints job shown) (handler : Error → Job Unit) :
    Prints (rescue job handler) shown := by
  intro c htakes
  exact on_rescue_of_ok (h c htakes) handler

/-- What fails before it prints is rescued by what is printed instead. -/
lemma rescue_of_failed {e : Error} {handler : Error → Job Unit}
    (hfails : ∀ c, job.on c = (.error (.failed e), c)) (h : Prints (handler e) shown) :
    Prints (Job.rescue job handler) shown := by
  intro c htakes
  exact (on_rescue_of_failed (hfails c) handler).trans (h c htakes)

end Prints

/-! ## Whole commands -/

/-- The console that a command begins with. -/
def Console.opening (stream : Stream) (settings : Settings) (replies : List Response)
    (clock : Clock) : Console where
  stream := stream
  output := ""
  errors := ""
  exchange := { connection := .fresh settings true clock, replies, trace := .empty }

/-- How a command ends whose job comes to something. -/
def endingOf : Except Ending Unit → Except Error ℕ
  | .ok () => .ok 0
  | .error (.exit code) => .ok code
  | .error (.failed e) => .error e

/-- **What a command leaves behind** is what its job leaves on the console. -/
lemma runJob_eq {job : Job Unit} {stream : Stream} {settings : Settings}
    {replies : List Response} {clock : Clock} {r : Except Ending Unit} {c : Console}
    (h : job.on (.opening stream settings replies clock) = (r, c)) :
    runJob job stream settings replies clock
      = { ending := endingOf r, output := c.output, errors := c.errors
          requests := c.exchange.trace.requests } := by
  rw [Job.on, Console.opening] at h
  simp only [runJob, h]
  cases r with
  | ok u => rfl
  | error e => cases e <;> rfl

end Command

end Paymaster
