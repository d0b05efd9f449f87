import StoryScript.Prompt

set_option autoImplicit false

namespace StoryScript

namespace Prompt

-- The loop, read by read: the events it has read, what it has done, and where it stands.
inductive Goes (fuel : Nat) (begun : Session) : List Event → List Entry → Prompt → Session → Prop where
  | start : Goes fuel begun [] [] {} begun
  | next (read : List Event) (entries new : List Entry) (p later : Prompt) (now after : Session) (event : Event)
      (goes : Goes fuel begun read entries p now) (went : step fuel p now event = some (.goOn later after new)) :
      Goes fuel begun (read ++ [event]) (entries ++ .asked p.text :: new) later after

inductive Ends (p : Prompt) : List Event → List Event → Ending → Prop where
  | exhausted : Ends p [] [] .finished
  | endOfInput (unread : List Event) : Ends p [.endOfInput] unread .finished
  | failure (message : String) (unread : List Event) : Ends p [.failure message] unread (.failed message)
  | exit (line : String) (unread : List Event) (nothing : p.pending = []) (word : isExit line = true) :
      Ends p [.line line] unread .finished

def history (entries : List Entry) : List String :=
  entries.filterMap fun
    | .remembered line => some line
    | _ => none

def depthOf (lines : List String) : Int32 := (lines.map fun line => braceDelta false line.toList).sum

def Begins (line : String) : Prop := isBlankLine line = false ∧ isExit line = false

-- Lines of a chunk that is waiting for more: braces have been open after every one of them.
structure Waits (lines : List String) : Prop where
  begins : ∀ line ∈ lines.head?, Begins line
  opened : ∀ count, 0 < count → count ≤ lines.length → 0 < depthOf (lines.take count)

structure Completes (lines : List String) : Prop where
  some : lines ≠ []
  begins : ∀ line ∈ lines.head?, Begins line
  opened : ∀ count, 0 < count → count < lines.length → 0 < depthOf (lines.take count)
  closed : depthOf lines ≤ 0

inductive Stretch where
  | blank (line : String)
  | ran (lines : List String) (outcome : Outcome) (output : String)
  | dropped (lines : List String)

def promptFor (lines : List String) : String := if lines.isEmpty then "> " else "  "

def gathered : List String → List Entry
  | [] => []
  | first :: others =>
    .asked "> " :: .remembered first :: others.flatMap fun line => [.asked "  ", .remembered line]

namespace Stretch

def events : Stretch → List Event
  | .blank line => [.line line]
  | .ran lines _ _ => lines.map .line
  | .dropped lines => lines.map .line ++ [.interrupt]

def lines : Stretch → List String
  | .blank _ => []
  | .ran lines _ _ => lines
  | .dropped lines => lines

def entries : Stretch → List Entry
  | .blank _ => [.asked "> "]
  | .ran lines outcome output => gathered lines ++ [.ran outcome output]
  | .dropped lines => gathered lines ++ [.asked (promptFor lines)]

end Stretch

-- Stretches one after another, each of its own kind, and the session after them. Only a chunk that is run
-- changes the session.
inductive Plays (fuel : Nat) (begun : Session) : List Stretch → Session → Prop where
  | start : Plays fuel begun [] begun
  | blank (stretches : List Stretch) (now : Session) (line : String) (plays : Plays fuel begun stretches now)
      (isBlank : isBlankLine line = true) : Plays fuel begun (stretches ++ [.blank line]) now
  | ran (stretches : List Stretch) (now after : Session) (lines : List String) (outcome : Outcome)
      (plays : Plays fuel begun stretches now) (completes : Completes lines)
      (ran : now.run fuel (chunkText lines) = some (outcome, after)) :
      Plays fuel begun (stretches ++ [.ran lines outcome after.takeOutput.1]) after.takeOutput.2
  | dropped (stretches : List Stretch) (now : Session) (lines : List String) (plays : Plays fuel begun stretches now)
      (waits : Waits lines) : Plays fuel begun (stretches ++ [.dropped lines]) now

structure Accounted (fuel : Nat) (begun : Session) (read : List Event) (entries : List Entry) (p : Prompt)
    (now : Session) (stretches : List Stretch) : Prop where
  plays : Plays fuel begun stretches now
  waits : Waits p.pending
  depth : p.depth = depthOf p.pending
  read : read = stretches.flatMap Stretch.events ++ p.pending.map .line
  done : entries = stretches.flatMap Stretch.entries ++ gathered p.pending

theorem gathered_more (lines : List String) (line : String) :
    gathered (lines ++ [line]) = gathered lines ++ [.asked (promptFor lines), .remembered line] := by
  cases lines with
  | nil => rfl
  | cons first others => simp [gathered, promptFor]

theorem history_append (first second : List Entry) : history (first ++ second) = history first ++ history second :=
  List.filterMap_append

theorem history_gathered (lines : List String) : history (gathered lines) = lines := by
  cases lines with
  | nil => rfl
  | cons first others =>
    have each : history (others.flatMap fun line => [.asked "  ", .remembered line]) = others := by
      induction others with
      | nil => rfl
      | cons line others ih => rw [List.flatMap_cons, history_append, ih]; rfl
    exact congrArg (first :: ·) each

theorem history_stretches (stretches : List Stretch) :
    history (stretches.flatMap Stretch.entries) = stretches.flatMap Stretch.lines := by
  induction stretches with
  | nil => rfl
  | cons stretch others ih =>
    rw [List.flatMap_cons, List.flatMap_cons, history_append, ih]
    congr 1
    cases stretch with
    | blank line => rfl
    | ran lines outcome output =>
      rw [Stretch.entries, history_append, history_gathered]
      exact List.append_nil lines
    | dropped lines =>
      rw [Stretch.entries, history_append, history_gathered]
      exact List.append_nil lines

theorem depthOf_more (lines : List String) (line : String) :
    depthOf (lines ++ [line]) = depthOf lines + braceDelta false line.toList := by
  simp [depthOf]

theorem waits_nothing : Waits [] where
  begins := by simp
  opened := by
    intro count some few
    exact absurd few (Nat.not_le_of_lt some)

theorem begins_more (lines : List String) (line : String) (waits : Waits lines) (begins : lines = [] → Begins line) :
    ∀ first ∈ (lines ++ [line]).head?, Begins first := by
  cases lines with
  | nil => simpa using begins rfl
  | cons first others => simpa using waits.begins first rfl

theorem opened_before (lines : List String) (line : String) (waits : Waits lines) (count : Nat) (some : 0 < count)
    (few : count ≤ lines.length) : 0 < depthOf ((lines ++ [line]).take count) := by
  rw [List.take_append_of_le_length few]
  exact waits.opened count some few

theorem waits_more (lines : List String) (line : String) (waits : Waits lines) (begins : lines = [] → Begins line)
    (opened : 0 < depthOf (lines ++ [line])) : Waits (lines ++ [line]) where
  begins := begins_more lines line waits begins
  opened := by
    intro count some few
    rw [List.length_append, List.length_singleton] at few
    rcases Nat.lt_or_eq_of_le few with fewer | all
    · exact opened_before lines line waits count some (Nat.le_of_lt_succ fewer)
    · rw [all, ← List.length_singleton (a := line), ← List.length_append, List.take_length]
      exact opened

theorem completes_more (lines : List String) (line : String) (waits : Waits lines) (begins : lines = [] → Begins line)
    (closed : depthOf (lines ++ [line]) ≤ 0) : Completes (lines ++ [line]) where
  some := by simp
  begins := begins_more lines line waits begins
  opened := by
    intro count some few
    rw [List.length_append, List.length_singleton] at few
    exact opened_before lines line waits count some (Nat.le_of_lt_succ few)
  closed := closed

theorem react_cases (p : Prompt) (line : String) :
    (p.pending = [] ∧ isBlankLine line = true ∧ p.react line = .ignored) ∨
    (p.pending = [] ∧ isExit line = true ∧ p.react line = .quit) ∨
    ((p.pending = [] → Begins line) ∧ 0 < p.depth + braceDelta false line.toList ∧
      p.react line = .pending ⟨p.pending ++ [line], p.depth + braceDelta false line.toList⟩) ∨
    ((p.pending = [] → Begins line) ∧ p.depth + braceDelta false line.toList ≤ 0 ∧
      p.react line = .complete (p.pending ++ [line])) := by
  unfold react
  by_cases blank : (p.pending.isEmpty && isBlankLine line) = true
  · rw [if_pos blank]
    rw [Bool.and_eq_true, List.isEmpty_iff] at blank
    exact Or.inl ⟨blank.1, blank.2, rfl⟩
  · rw [if_neg blank]
    by_cases leaving : (p.pending.isEmpty && isExit line) = true
    · rw [if_pos leaving]
      rw [Bool.and_eq_true, List.isEmpty_iff] at leaving
      exact Or.inr (Or.inl ⟨leaving.1, leaving.2, rfl⟩)
    · rw [if_neg leaving]
      have begins : p.pending = [] → Begins line := by
        intro nothing
        simpa [nothing, Begins] using And.intro blank leaving
      by_cases closed : p.depth + braceDelta false line.toList ≤ 0
      · exact Or.inr (Or.inr (Or.inr ⟨begins, closed, if_pos closed⟩))
      · exact Or.inr (Or.inr (Or.inl ⟨begins, Int32.not_le.1 closed, if_neg closed⟩))

section Account

variable (fuel : Nat) (begun : Session)

theorem accounted_start : Accounted fuel begun [] [] {} begun [] := ⟨.start, waits_nothing, rfl, rfl, rfl⟩

theorem accounted_stretch (read : List Event) (entries new : List Entry) (p : Prompt) (now after : Session)
    (event : Event) (stretches : List Stretch) (stretch : Stretch)
    (accounted : Accounted fuel begun read entries p now stretches)
    (plays : Plays fuel begun (stretches ++ [stretch]) after)
    (events : stretch.events = p.pending.map .line ++ [event])
    (done : stretch.entries = gathered p.pending ++ .asked p.text :: new) :
    Accounted fuel begun (read ++ [event]) (entries ++ .asked p.text :: new) {} after (stretches ++ [stretch]) where
  plays := plays
  waits := waits_nothing
  depth := rfl
  read := by simp [accounted.read, events]
  done := by simp [accounted.done, done, gathered]

theorem accounted_next (read : List Event) (entries new : List Entry) (p later : Prompt) (now after : Session)
    (event : Event) (stretches : List Stretch) (accounted : Accounted fuel begun read entries p now stretches)
    (went : step fuel p now event = some (.goOn later after new)) :
    ∃ more, Accounted fuel begun (read ++ [event]) (entries ++ .asked p.text :: new) later after more := by
  have waits := accounted.waits
  have depth := accounted.depth
  cases event with
  | endOfInput => cases went
  | failure message => cases went
  | interrupt =>
    cases went
    have plays := Plays.dropped stretches now p.pending accounted.plays waits
    exact ⟨_, accounted_stretch fuel begun read entries [] p now now .interrupt stretches _ accounted plays rfl rfl⟩
  | line line =>
    rw [step] at went
    rcases react_cases p line with ⟨nothing, isBlank, reaction⟩ | ⟨_, _, reaction⟩ | ⟨begins, opened, reaction⟩ |
      ⟨begins, closed, reaction⟩
    · rw [reaction] at went
      cases went
      refine ⟨stretches ++ [.blank line], .blank stretches now line accounted.plays isBlank, waits, depth, ?_, ?_⟩
      · simp [accounted.read, nothing, Stretch.events]
      · simp [accounted.done, nothing, Stretch.entries, gathered, text]
    · rw [reaction] at went
      cases went
    · rw [reaction] at went
      cases went
      rw [depth, ← depthOf_more] at opened
      refine ⟨stretches, accounted.plays, waits_more p.pending line waits begins opened, ?_, ?_, ?_⟩
      · rw [depth, depthOf_more]
      · simp [accounted.read]
      · rw [accounted.done, List.append_assoc, gathered_more]
        rfl
    · rw [reaction] at went
      rw [depth, ← depthOf_more] at closed
      obtain ⟨⟨outcome, last⟩, ran, same⟩ := Option.map_eq_some_iff.1 went
      cases same
      have plays := Plays.ran stretches now last _ outcome accounted.plays
        (completes_more p.pending line waits begins closed) ran
      refine ⟨_, accounted_stretch fuel begun read entries _ p now _ (.line line) stretches _ accounted plays ?_ ?_⟩
      · simp [Stretch.events]
      · rw [Stretch.entries, gathered_more, List.append_assoc]
        rfl

theorem goes_accounted (read : List Event) (entries : List Entry) (p : Prompt) (now : Session)
    (goes : Goes fuel begun read entries p now) : ∃ stretches, Accounted fuel begun read entries p now stretches := by
  induction goes with
  | start => exact ⟨[], accounted_start fuel begun⟩
  | next read entries new p later now after event _ went ih =>
    obtain ⟨stretches, accounted⟩ := ih
    exact accounted_next fuel begun read entries new p later now after event stretches accounted went

theorem stop_ends (p : Prompt) (now : Session) (event : Event) (unread : List Event) (ending : Ending)
    (stopped : step fuel p now event = some (.stop ending)) : Ends p [event] unread ending := by
  cases event with
  | endOfInput =>
    cases stopped
    exact .endOfInput unread
  | failure message =>
    cases stopped
    exact .failure message unread
  | interrupt => cases stopped
  | line line =>
    rw [step] at stopped
    rcases react_cases p line with ⟨_, _, reaction⟩ | ⟨nothing, word, reaction⟩ | ⟨_, _, reaction⟩ | ⟨_, _, reaction⟩
    · rw [reaction] at stopped
      cases stopped
    · rw [reaction] at stopped
      cases stopped
      exact .exit line unread nothing word
    · rw [reaction] at stopped
      cases stopped
    · rw [reaction] at stopped
      obtain ⟨_, _, same⟩ := Option.map_eq_some_iff.1 stopped
      cases same

-- From wherever the loop has come to, it goes on to where it ends. The induction is on the events to come.
theorem runEvents_goes (read events : List Event) (entries : List Entry) (p : Prompt) (now : Session) (t : Transcript)
    (goes : Goes fuel begun read entries p now) (ended : runEvents fuel p now events = some t) :
    ∃ more done final last, Goes fuel begun (read ++ more) (entries ++ done) final t.session ∧
      Ends final last t.unread t.ending ∧ events = more ++ last ++ t.unread ∧ t.entries = done ++ [.asked final.text] := by
  induction events generalizing read entries p now t with
  | nil =>
    cases ended
    refine ⟨[], [], p, [], ?_, .exhausted, rfl, rfl⟩
    simpa using goes
  | cons event events ih =>
    rw [runEvents] at ended
    cases stepped : step fuel p now event with
    | none =>
      rw [stepped] at ended
      cases ended
    | some next =>
      rw [stepped] at ended
      cases next with
      | stop ending =>
        cases ended
        refine ⟨[], [], p, [event], ?_, stop_ends fuel p now event events ending stepped, rfl, rfl⟩
        simpa using goes
      | goOn later after new =>
        obtain ⟨rest, restEnded, rfl⟩ := Option.map_eq_some_iff.1 ended
        have further := Goes.next read entries new p later now after event goes stepped
        obtain ⟨more, done, final, last, reached, ends, split, entriesSplit⟩ :=
          ih (read ++ [event]) (entries ++ .asked p.text :: new) later after rest further restEnded
        refine ⟨event :: more, .asked p.text :: new ++ done, final, last, ?_, ends, ?_, ?_⟩
        · simpa using reached
        · simp [split]
        · simp [entriesSplit]

end Account

theorem text_continues (p : Prompt) : p.text = "  " ↔ p.pending ≠ [] := by
  unfold text
  cases p.pending with
  | nil => simp
  | cons line lines => simp

theorem waits_iff_open (lines : List String) (waits : Waits lines) : lines ≠ [] ↔ 0 < depthOf lines := by
  cases lines with
  | nil => simp [depthOf]
  | cons line lines =>
    have opened := waits.opened (line :: lines).length (Nat.zero_lt_succ _) (Nat.le_refl _)
    rw [List.take_length] at opened
    exact ⟨fun _ => opened, fun _ => List.cons_ne_nil _ _⟩

-- Every line read is passed over, or stands in one chunk, which was run, was dropped, or is still waiting; and
-- the loop reads nothing after what ends it.
theorem every_line_is_accounted_for (fuel : Nat) (begun : Session) :
    (∀ read entries p now, Goes fuel begun read entries p now →
      (p.text = "  " ↔ p.pending ≠ []) ∧ (p.pending ≠ [] ↔ 0 < p.depth) ∧
      ∃ stretches, Accounted fuel begun read entries p now stretches ∧
        history entries = stretches.flatMap Stretch.lines ++ p.pending) ∧
    (∀ events t, runEvents fuel {} begun events = some t →
      ∃ read entries p last, Goes fuel begun read entries p t.session ∧ Ends p last t.unread t.ending ∧
        events = read ++ last ++ t.unread ∧ t.entries = entries ++ [.asked p.text]) := by
  constructor
  · intro read entries p now goes
    obtain ⟨stretches, accounted⟩ := goes_accounted fuel begun read entries p now goes
    refine ⟨text_continues p, ?_, stretches, accounted, ?_⟩
    · rw [accounted.depth]
      exact waits_iff_open p.pending accounted.waits
    · rw [accounted.done, history_append, history_stretches, history_gathered]
  · intro events t ended
    obtain ⟨read, entries, p, last, goes, ends, split, entriesSplit⟩ :=
      runEvents_goes fuel begun [] events [] {} begun t .start ended
    exact ⟨read, entries, p, last, goes, ends, split, entriesSplit⟩

def typedEvents : List Event :=
  [.line "  ", .line "\x7b print 1;", .line "exit", .line "; \x7d", .line "\x7b", .interrupt, .line "EXIT",
    .line "print 3;"]

theorem typedEvents_accounted_for :
    ∃ t read entries p last,
      runEvents 20 {} (Session.start { world := .ofSeed 0 }) typedEvents = some t ∧
      (t.unread.length, history t.entries) = (1, ["\x7b print 1;", "exit", "; \x7d", "\x7b"]) ∧
      Ends p last t.unread t.ending ∧ typedEvents = read ++ last ++ t.unread ∧ (p.pending ≠ [] ↔ 0 < p.depth) ∧
      ∃ stretches, Accounted 20 (Session.start { world := .ofSeed 0 }) read entries p t.session stretches ∧
        history entries = stretches.flatMap Stretch.lines ++ p.pending := by
  have seen : (runEvents 20 {} (Session.start { world := .ofSeed 0 }) typedEvents).map
      (fun t => (t.unread.length, history t.entries)) =
        some (1, ["\x7b print 1;", "exit", "; \x7d", "\x7b"]) := by decide +kernel
  obtain ⟨t, ended, same⟩ := Option.map_eq_some_iff.1 seen
  obtain ⟨accounts, ends⟩ := every_line_is_accounted_for 20 (Session.start { world := .ofSeed 0 })
  obtain ⟨read, entries, p, last, goes, endsHere, split, _⟩ := ends typedEvents t ended
  obtain ⟨_, openIff, stretches⟩ := accounts read entries p t.session goes
  exact ⟨t, read, entries, p, last, ended, same, endsHere, split, openIff, stretches⟩

end Prompt

end StoryScript
