import StoryScript.Native.Call
import StoryScript.Proofs.Number.Rational
import StoryScript.Proofs.Random.Range

set_option autoImplicit false

namespace StoryScript

open Number

namespace Native

theorem integerLimit_exact : Exact 9223372036854775808 := by
  have magnitude : (9223372036854775808 : Int).natAbs = twoPow 63 := rfl
  have power : (9223372036854775808 : Int).natAbs * one = 1 * twoPow (63 + 1074) := by
    rw [magnitude, one_eq, ← twoPow_add, Nat.one_mul]
  unfold Exact
  rw [power]
  refine ⟨short_mul_twoPow 1 _ (twoPow_pos 53), ?_⟩
  rw [Nat.one_mul]
  exact twoPow_lt (63 + 1074) 2098 (by omega)

theorem lowestInteger_worth : lowestInteger.rational? = some ((-9223372036854775808 : Int) : ℚ) :=
  rational_ofInt _ (exact_neg _ integerLimit_exact)

theorem integerLimit_worth : integerLimit.rational? = some ((9223372036854775808 : Int) : ℚ) :=
  rational_ofInt _ integerLimit_exact

theorem ceil_worthless (x : Number) (worthless : x.rational? = none) : x.ceil.toInt? = none := by
  cases x with
  | finite negative units short small => cases worthless
  | nan => rfl
  | infinite sign => rfl

theorem floor_worthless (x : Number) (worthless : x.rational? = none) : x.floor.toInt? = none := by
  cases x with
  | finite negative units short small => cases worthless
  | nan => rfl
  | infinite sign => rfl

-- The whole numbers from one bound to the other: there is at least one, and all are 64-bit.
structure Spans (p q : ℚ) (first last : Int) : Prop where
  first_eq : first = ⌈p⌉
  last_eq : last = ⌊q⌋
  lowest : -9223372036854775808 ≤ first
  highest : last < 9223372036854775808
  ordered : first ≤ last

-- A range is taken exactly when both ends are finite and span 64-bit integers; the integers are not cut to fit.
theorem rangeOf_spans (x y : Number) (p q : ℚ) (worthX : x.rational? = some p) (worthY : y.rational? = some q)
    (first last : Int) : rangeOf x y = .ok (first, last) ↔ Spans p q first last := by
  obtain ⟨-, ceiling⟩ := ceil_rational x p worthX
  obtain ⟨-, flooring⟩ := floor_rational y q worthY
  have lowest := lessEqual_rational _ _ _ _ lowestInteger_worth ceiling
  have highest := less_rational _ _ _ _ flooring integerLimit_worth
  rw [Int.cast_le] at lowest
  rw [Int.cast_lt] at highest
  unfold rangeOf
  dsimp only
  rw [toInt_of_whole _ _ ceiling, toInt_of_whole _ _ flooring]
  by_cases inside : -9223372036854775808 ≤ ⌈p⌉ ∧ ⌊q⌋ < 9223372036854775808
  · have within : (lowestInteger.lessEqual x.ceil && y.floor.less integerLimit) = true := by
      rw [lowest.2 inside.1, highest.2 inside.2]
      rfl
    rw [within]
    by_cases ordered : ⌈p⌉ ≤ ⌊q⌋
    · simp only [Bool.not_true, Bool.false_eq_true, if_false, if_pos ordered, Except.ok.injEq, Prod.mk.injEq]
      constructor
      · rintro ⟨rfl, rfl⟩
        exact ⟨rfl, rfl, inside.1, inside.2, ordered⟩
      · rintro ⟨rfl, rfl, _, _, _⟩
        exact ⟨rfl, rfl⟩
    · simp only [Bool.not_true, Bool.false_eq_true, if_false, if_neg ordered, reduceCtorEq, false_iff]
      rintro ⟨rfl, rfl, _, _, fits⟩
      exact ordered fits
  · have without : (lowestInteger.lessEqual x.ceil && y.floor.less integerLimit) = false := by
      rw [Bool.eq_false_iff]
      intro within
      rw [Bool.and_eq_true, lowest, highest] at within
      exact inside within
    rw [without]
    simp only [Bool.not_false, if_true, reduceCtorEq, false_iff]
    rintro ⟨rfl, rfl, low, high, _⟩
    exact inside ⟨low, high⟩

theorem rangeOf_worthless (x y : Number) (worthless : x.rational? = none ∨ y.rational? = none) (range : Int × Int) :
    rangeOf x y ≠ .ok range := by
  unfold rangeOf
  dsimp only
  rcases worthless with isX | isY
  · rw [ceil_worthless x isX]
    split <;> simp
  · rw [floor_worthless y isY]
    split
    · simp
    · split <;> simp_all

def Throws (low high : Value) (first last : Int) : Prop :=
  ∃ x y p q, low = .number x ∧ high = .number y ∧ x.rational? = some p ∧ y.rational? = some q ∧ Spans p q first last

theorem rangeOf_throws (x y : Number) (first last : Int) :
    rangeOf x y = .ok (first, last) ↔ Throws (.number x) (.number y) first last := by
  cases worthX : x.rational? with
  | none =>
    constructor
    · intro ok
      exact absurd ok (rangeOf_worthless x y (Or.inl worthX) _)
    · rintro ⟨x', y', p, q, ⟨⟩, ⟨⟩, isX, _, _⟩
      rw [worthX] at isX
      cases isX
  | some p =>
    cases worthY : y.rational? with
    | none =>
      constructor
      · intro ok
        exact absurd ok (rangeOf_worthless x y (Or.inr worthY) _)
      · rintro ⟨x', y', p, q, ⟨⟩, ⟨⟩, _, isY, _⟩
        rw [worthY] at isY
        cases isY
    | some q =>
      rw [rangeOf_spans x y p q worthX worthY]
      constructor
      · intro spans
        exact ⟨x, y, p, q, rfl, rfl, worthX, worthY, spans⟩
      · rintro ⟨x', y', p', q', ⟨⟩, ⟨⟩, isX, isY, spans⟩
        cases worthX.symm.trans isX
        cases worthY.symm.trans isY
        exact spans

def throwOf (fuel : Nat) (first last : Int) (host : Host) : Finish Host NativeError Value :=
  match host.world.randomInt fuel first last with
  | some (roll, world) => .done (.number (.ofInt roll)) { host with world }
  | none => .outOfFuel

theorem throwDice_throws (fuel : Nat) (low high : Value) (host : Host) (first last : Int)
    (throws : Throws low high first last) : throwDice fuel low high host = throwOf fuel first last host := by
  have given := throws
  obtain ⟨x, y, p, q, rfl, rfl, _, _, _⟩ := given
  have range := (rangeOf_throws x y first last).2 throws
  unfold throwDice numberArg
  rw [pure_bind, pure_bind, range, throwOf]
  simp only [Run.ofExcept, world, Run.get, Bind.bind, Run.bind, pure, Run.pure]
  cases host.world.randomInt fuel first last with
  | none => rfl
  | some drawn => rfl

theorem throwDice_fails (fuel : Nat) (low high : Value) (host : Host)
    (nothing : ¬ ∃ first last, Throws low high first last) : ∃ error, throwDice fuel low high host = .fault error host := by
  cases low with
  | number x =>
    cases high with
    | number y =>
      cases range : rangeOf x y with
      | ok found => exact absurd ⟨_, _, (rangeOf_throws x y found.1 found.2).1 range⟩ nothing
      | error error =>
        refine ⟨error, ?_⟩
        unfold throwDice numberArg
        rw [pure_bind, pure_bind, range]
        rfl
    | _ => exact ⟨_, rfl⟩
  | _ => exact ⟨_, rfl⟩

-- A throw that comes to an end gives a whole number between the two values, also where it had to be rounded.
theorem throwOf_range (fuel : Nat) (x y : Number) (p q : ℚ) (worthX : x.rational? = some p)
    (worthY : y.rational? = some q) (first last : Int) (spans : Spans p q first last) (host after : Host) (value : Value)
    (thrown : throwOf fuel first last host = .done value after) :
    ∃ r w, value = .number r ∧ r.rational? = some ((w : Int) : ℚ) ∧ x.lessEqual r = true ∧ r.lessEqual y = true := by
  obtain ⟨rfl, rfl, lowest, highest, ordered⟩ := spans
  unfold throwOf at thrown
  cases drawn : host.world.randomInt fuel ⌈p⌉ ⌊q⌋ with
  | none =>
    rw [drawn] at thrown
    cases thrown
  | some result =>
    obtain ⟨roll, world⟩ := result
    rw [drawn] at thrown
    obtain ⟨⟨roll', generator⟩, between, same⟩ := Option.map_eq_some_iff.1 drawn
    obtain ⟨rfl, -⟩ := Prod.mk.inj same
    have inside := Random.between_range fuel _ _ _ generator roll' lowest highest ordered between
    obtain ⟨w, worth, lower, upper⟩ := ofInt_between roll' _ _ (ceil_rational x p worthX).1 (floor_rational y q worthY).1
      inside.1 inside.2
    refine ⟨.ofInt roll', w, (Finish.done.inj thrown).1.symm, worth, ?_, ?_⟩
    · rw [lessEqual_rational x _ p w worthX worth]
      exact le_trans (Int.le_ceil p) (Int.cast_le.2 lower)
    · rw [lessEqual_rational _ y w q worth worthY]
      exact le_trans (Int.cast_le.2 upper) (Int.floor_le q)

theorem throwOf_ends (fuel : Nat) (first last : Int) (host : Host) :
    (∀ error after, throwOf fuel first last host ≠ .fault error after) ∧
      ((∃ value after, throwOf fuel first last host = .done value after) ↔
        (Random.between fuel first last host.world.generator).isSome = true) := by
  unfold throwOf World.randomInt
  cases Random.between fuel first last host.world.generator with
  | none => simp
  | some drawn => simp

theorem throwOf_gives (fuel rounds : Nat) (enough : rounds ≤ fuel) (first last : Int) (host : Host) (roll : Int)
    (generator : Random.Generator)
    (drawn : Random.between rounds first last host.world.generator = some (roll, generator)) :
    throwOf fuel first last host =
      .done (.number (.ofInt roll)) { host with world := { host.world with generator } } := by
  unfold throwOf World.randomInt
  rw [Random.between_longer rounds fuel enough first last _ _ drawn]
  rfl

theorem throwDice_cases (fuel : Nat) (low high : Value) (host : Host) :
    (∃ first last, Throws low high first last ∧ throwDice fuel low high host = throwOf fuel first last host) ∨
      ((¬ ∃ first last, Throws low high first last) ∧ ∃ error, throwDice fuel low high host = .fault error host) := by
  by_cases spanned : ∃ first last, Throws low high first last
  · obtain ⟨first, last, throws⟩ := spanned
    exact Or.inl ⟨first, last, throws, throwDice_throws fuel low high host first last throws⟩
  · exact Or.inr ⟨spanned, throwDice_fails fuel low high host spanned⟩

theorem throwDice_fault (fuel : Nat) (low high : Value) (host : Host) :
    (∃ error after, throwDice fuel low high host = .fault error after) ↔ ¬ ∃ first last, Throws low high first last := by
  rcases throwDice_cases fuel low high host with ⟨first, last, throws, reached⟩ | ⟨nothing, error, failed⟩
  · constructor
    · rintro ⟨error, after, failed⟩
      exact absurd (reached.symm.trans failed) ((throwOf_ends fuel first last host).1 error after)
    · exact fun nothing => absurd ⟨first, last, throws⟩ nothing
  · exact ⟨fun _ => nothing, fun _ => ⟨error, host, failed⟩⟩

theorem throwDice_untouched (fuel : Nat) (low high : Value) (host after : Host) (error : NativeError)
    (failed : throwDice fuel low high host = .fault error after) : after = host := by
  rcases throwDice_cases fuel low high host with ⟨first, last, _, reached⟩ | ⟨_, error', failed'⟩
  · exact absurd (reached.symm.trans failed) ((throwOf_ends fuel first last host).1 error after)
  · exact (Finish.fault.inj (failed'.symm.trans failed)).2.symm

theorem throwDice_done (fuel : Nat) (low high : Value) (host : Host) :
    (∃ value after, throwDice fuel low high host = .done value after) ↔
      ∃ first last, Throws low high first last ∧
        (Random.between fuel first last host.world.generator).isSome = true := by
  constructor
  · rintro ⟨value, after, done⟩
    rcases throwDice_cases fuel low high host with ⟨first, last, throws, reached⟩ | ⟨_, error, failed⟩
    · rw [reached] at done
      exact ⟨first, last, throws, (throwOf_ends fuel first last host).2.1 ⟨value, after, done⟩⟩
    · cases failed.symm.trans done
  · rintro ⟨first, last, throws, drawn⟩
    rw [throwDice_throws fuel low high host first last throws]
    exact (throwOf_ends fuel first last host).2.2 drawn

theorem throwDice_range (fuel : Nat) (low high : Value) (host after : Host) (value : Value)
    (done : throwDice fuel low high host = .done value after) :
    ∃ x y r w, low = .number x ∧ high = .number y ∧ value = .number r ∧ r.rational? = some ((w : Int) : ℚ) ∧
      x.lessEqual r = true ∧ r.lessEqual y = true := by
  rcases throwDice_cases fuel low high host with ⟨first, last, throws, reached⟩ | ⟨_, error, failed⟩
  · rw [reached] at done
    obtain ⟨x, y, p, q, isX, isY, worthX, worthY, spans⟩ := throws
    obtain ⟨r, w, isR, worth, lower, upper⟩ :=
      throwOf_range fuel x y p q worthX worthY first last spans host after value done
    exact ⟨x, y, r, w, isX, isY, isR, worth, lower, upper⟩
  · cases failed.symm.trans done

-- A throw fails, and then touches nothing, exactly when the two values span no 64-bit integers. Otherwise the dice
-- get just the integers spanned, and the number they give, whenever they come to an end, is the number of the throw: a
-- whole number between the values.
theorem random_stays_in_range (fuel : Nat) (low high : Value) (host : Host) :
    ((∃ error after, call fuel .random [low, high] host = .fault error after) ↔
        ¬ ∃ first last, Throws low high first last) ∧
      (∀ error after, call fuel .random [low, high] host = .fault error after → after = host) ∧
      ((∃ value after, call fuel .random [low, high] host = .done value after) ↔
        ∃ first last, Throws low high first last ∧
          (Random.between fuel first last host.world.generator).isSome = true) ∧
      (∀ first last, Throws low high first last →
        call fuel .random [low, high] host = throwOf fuel first last host) ∧
      (∀ first last rounds roll generator, Throws low high first last → rounds ≤ fuel →
        Random.between rounds first last host.world.generator = some (roll, generator) →
        call fuel .random [low, high] host =
          .done (.number (.ofInt roll)) { host with world := { host.world with generator } }) ∧
      ∀ value after, call fuel .random [low, high] host = .done value after →
        ∃ x y r w, low = .number x ∧ high = .number y ∧ value = .number r ∧ r.rational? = some ((w : Int) : ℚ) ∧
          x.lessEqual r = true ∧ r.lessEqual y = true := by
  have same : call fuel .random [low, high] host = throwDice fuel low high host := rfl
  rw [same]
  refine ⟨throwDice_fault fuel low high host, ?_, throwDice_done fuel low high host, ?_, ?_, ?_⟩
  · exact fun error after failed => throwDice_untouched fuel low high host after error failed
  · exact throwDice_throws fuel low high host
  · intro first last rounds roll generator throws enough drawn
    rw [throwDice_throws fuel low high host first last throws]
    exact throwOf_gives fuel rounds enough first last host roll generator drawn
  · exact fun value after done => throwDice_range fuel low high host after value done

theorem die_of_seed_shows_five :
    call 20 .random [.number (.ofNat 1), .number (.ofNat 6)] { world := .ofSeed 42 } =
        .done (.number (.ofNat 5)) { world := { World.ofSeed 42 with generator := (Random.Generator.ofSeed 42).next } } ∧
      ∃ x y r w, Value.number (.ofNat 1) = .number x ∧ Value.number (.ofNat 6) = .number y ∧
        Value.number (.ofNat 5) = .number r ∧ r.rational? = some ((w : Int) : ℚ) ∧ x.lessEqual r = true ∧
        r.lessEqual y = true := by
  have throws : Throws (.number (.ofNat 1)) (.number (.ofNat 6)) 1 6 := (rangeOf_throws _ _ 1 6).1 (by decide +kernel)
  have drawn : Random.between 1 1 6 (.ofSeed 42) = some (5, (Random.Generator.ofSeed 42).next) := by decide +kernel
  obtain ⟨-, -, -, -, gives, range⟩ :=
    random_stays_in_range 20 (.number (.ofNat 1)) (.number (.ofNat 6)) { world := .ofSeed 42 }
  have thrown := gives 1 6 1 5 _ throws (by decide) drawn
  exact ⟨thrown, range _ _ thrown⟩

end Native

end StoryScript
