import StoryScript.Proofs.Machine.Ends

set_option autoImplicit false

namespace StoryScript.Host

-- The bytes of an input cut after each line feed. What follows the last one is a line only if there is something.
def lines : List UInt8 → List (List UInt8)
  | [] => []
  | byte :: rest =>
    if byte = 10 then [byte] :: lines rest
    else
      match lines rest with
      | [] => [[byte]]
      | first :: others => (byte :: first) :: others

theorem flatten_lines (bytes : List UInt8) : (lines bytes).flatten = bytes := by
  induction bytes with
  | nil => rfl
  | cons byte rest ih =>
    rw [lines]
    by_cases isEnd : byte = 10
    · rw [if_pos isEnd, List.flatten_cons, ih]
      rfl
    · rw [if_neg isEnd]
      cases found : lines rest with
      | nil =>
        rw [found] at ih
        rw [← ih]
        rfl
      | cons first others =>
        rw [found] at ih
        rw [← ih]
        rfl

theorem lines_split (byte : UInt8) (rest : List UInt8) :
    lines (byte :: rest) = (splitLine (byte :: rest)).1 :: lines (splitLine (byte :: rest)).2 := by
  induction rest generalizing byte with
  | nil =>
    by_cases isEnd : byte = 10
    · simp [lines, splitLine, isEnd]
    · simp [lines, splitLine, isEnd]
  | cons next rest ih =>
    rw [lines, splitLine]
    by_cases isEnd : byte = 10
    · rw [if_pos isEnd, if_pos isEnd]
    · rw [if_neg isEnd, if_neg isEnd, ih next]

theorem lines_split_input (byte : UInt8) (rest : List UInt8) :
    (lines (byte :: rest)).head? = some (splitLine (byte :: rest)).1 ∧
      (lines (byte :: rest)).tail = lines (splitLine (byte :: rest)).2 := by
  rw [lines_split]
  exact ⟨rfl, rfl⟩

structure Bare (text bare : String) : Prop where
  ends : ∃ dropped, text.toList = bare.toList ++ dropped ∧ ∀ c ∈ dropped, c = '\n' ∨ c = '\r'
  kept : ∀ c, bare.toList.getLast? = some c → c ≠ '\n' ∧ c ≠ '\r'

theorem stripEnds_bare (text : String) : Bare text (stripEnds text) := by
  have whole := List.takeWhile_append_dropWhile (p := fun c => c == '\n' || c == '\r') (l := text.toList.reverse)
  have dropped := List.all_takeWhile (p := fun c => c == '\n' || c == '\r') (l := text.toList.reverse)
  refine ⟨⟨(text.toList.reverse.takeWhile fun c => c == '\n' || c == '\r').reverse, ?_, ?_⟩, ?_⟩
  · rw [stripEnds, String.toList_ofList, ← List.reverse_append, whole, List.reverse_reverse]
  · intro c member
    simpa using List.all_eq_true.1 dropped c (List.mem_reverse.1 member)
  · intro c last
    rw [stripEnds, String.toList_ofList, List.getLast?_reverse] at last
    have first := List.head?_dropWhile_not (fun c => c == '\n' || c == '\r') text.toList.reverse
    rw [last] at first
    simpa using first

-- What a line read from an input says: its text, or that it is none.
inductive Says : Option (List UInt8) → Except StreamError (Option String) → Prop where
  | atEnd : Says none (.ok none)
  | text (line : List UInt8) (text : String) (valid : Text.Utf8.decode? line = some text) :
      Says (some line) (.ok (some text))
  | invalid (line : List UInt8) (broken : Text.Utf8.decode? line = none) : Says (some line) (.error .notUtf8)

theorem takeLine_lines (host : Host) :
    ∃ result input, takeLine host = Run.ofExcept result { host with input } ∧ Says (lines host.input).head? result ∧
      lines input = (lines host.input).tail := by
  obtain ⟨world, sink, input, clock⟩ := host
  cases input with
  | nil => exact ⟨.ok none, [], rfl, .atEnd, rfl⟩
  | cons byte rest =>
    obtain ⟨first, others⟩ := lines_split_input byte rest
    unfold takeLine
    dsimp only
    rw [first, others]
    cases decoded : Text.Utf8.decode? (splitLine (byte :: rest)).1 with
    | some text => exact ⟨.ok (some text), _, rfl, .text _ text decoded, rfl⟩
    | none => exact ⟨.error .notUtf8, _, rfl, .invalid _ decoded, rfl⟩

end StoryScript.Host
