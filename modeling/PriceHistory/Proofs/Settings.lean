import PriceHistory.Proofs.Text.Digits
import PriceHistory.Proofs.Text.Trim
import PriceHistory.Settings

/-!
Which settings an environment gives. A number is taken from a text exactly if the text spells it, with
digits and perhaps a plus between blanks, and it is within its bounds; it is then the number itself. Else
the fault of the first number that is not taken is what comes of the environment.
-/
namespace PriceHistory.Settings

open PriceHistory.Text

/-- Does a text spell a number: in digits, with any zeros in front, perhaps after a plus, and with blanks
around? -/
def Spells (text : String) (n : Nat) : Prop :=
  ∃ front sign digits back, text.toList = front ++ (sign ++ digits) ++ back ∧
    ((∀ c ∈ front, isBlank c = true) ∧ ∀ c ∈ back, isBlank c = true) ∧
    (sign = [] ∨ sign = ['+']) ∧ (digits ≠ [] ∧ ∀ c ∈ digits, c.isDigit = true) ∧ digitsValue digits = n

/-- What is left when the blanks around a spelled number are dropped. -/
theorem trim_of_spelled {text : String} {front sign digits back : List Char}
    (parts : text.toList = front ++ (sign ++ digits) ++ back)
    (blank : (∀ c ∈ front, isBlank c = true) ∧ ∀ c ∈ back, isBlank c = true)
    (signed : sign = [] ∨ sign = ['+']) (numeral : digits ≠ [] ∧ ∀ c ∈ digits, c.isDigit = true) :
    (trim text).toList = sign ++ digits := by
  obtain ⟨nonempty, all⟩ := numeral
  refine toList_trim parts blank.1 blank.2 (List.append_ne_nil_of_right_ne_nil _ nonempty) ?_ ?_
  · intro c first
    rcases signed with rfl | rfl
    · exact isBlank_of_isDigit (all c (List.mem_of_mem_head? first))
    · obtain rfl : '+' = c := Option.some.inj first
      decide
  · intro c last
    rw [List.getLast?_append, List.getLast?_eq_some_getLast nonempty] at last
    obtain rfl : digits.getLast nonempty = c := Option.some.inj last
    exact isBlank_of_isDigit (all _ (List.getLast_mem nonempty))

/-- A plus at the front of a trimmed text is passed over, and the rest has to be a numeral below the
limit. -/
theorem readNumber?_of_trim {text : String} {sign digits : List Char}
    (trimmed : (trim text).toList = sign ++ digits)
    (signed : sign = [] ∧ digits.head? ≠ some '+' ∨ sign = ['+']) {n : Nat} :
    readNumber? text = some n ↔
      (digits ≠ [] ∧ ∀ c ∈ digits, c.isDigit = true) ∧ digitsValue digits = n ∧ n < 2 ^ 64 := by
  have limit : numberLimit = 2 ^ 64 := Nat.one_shiftLeft 64
  have read : readNumber? text =
      if digits ≠ [] ∧ digits.all Char.isDigit ∧ digitsValue digits < numberLimit then
        some (digitsValue digits)
      else none := by
    rw [readNumber?, trimmed]
    rcases signed with ⟨rfl, other⟩ | rfl
    · rw [List.nil_append]
      split
      next rest => exact absurd rfl other
      next => rfl
    · rfl
  simp only [read, limit, List.all_eq_true, Option.ite_none_right_eq_some, Option.some.injEq]
  constructor
  · rintro ⟨⟨nonempty, all, small⟩, rfl⟩
    exact ⟨⟨nonempty, all⟩, rfl, small⟩
  · rintro ⟨⟨nonempty, all⟩, rfl, small⟩
    exact ⟨⟨nonempty, all, small⟩, rfl⟩

theorem exists_sign (cs : List Char) : ∃ sign digits, cs = sign ++ digits ∧
    (sign = [] ∧ digits.head? ≠ some '+' ∨ sign = ['+']) := by
  by_cases plus : cs.head? = some '+'
  · obtain ⟨digits, whole⟩ := List.head?_eq_some_iff.mp plus
    exact ⟨['+'], digits, whole, .inr rfl⟩
  · exact ⟨[], cs, rfl, .inl ⟨rfl, plus⟩⟩

/-- A number is read exactly where it is spelled and below the limit. -/
theorem readNumber?_eq_some_iff {text : String} {n : Nat} :
    readNumber? text = some n ↔ Spells text n ∧ n < 2 ^ 64 := by
  constructor
  · intro read
    obtain ⟨front, back, parts, blank⟩ := exists_trim text
    obtain ⟨sign, digits, trimmed, signed⟩ := exists_sign (trim text).toList
    obtain ⟨numeral, value, small⟩ := (readNumber?_of_trim trimmed signed).mp read
    rw [trimmed] at parts
    refine ⟨?_, small⟩
    exact ⟨front, sign, digits, back, parts, blank, signed.imp_left And.left, numeral, value⟩
  · rintro ⟨⟨front, sign, digits, back, parts, blank, signed, numeral, value⟩, small⟩
    have trimmed := trim_of_spelled parts blank signed numeral
    have other : digits.head? ≠ some '+' := fun plus =>
      absurd (numeral.2 '+' (List.mem_of_mem_head? plus)) (by decide)
    exact (readNumber?_of_trim trimmed (signed.imp_left (⟨·, other⟩))).mpr ⟨numeral, value, small⟩

/-- Is a number of at least so much taken from a text? -/
def Taken (least : Nat) (text : String) (n : Nat) : Prop :=
  Spells text n ∧ least ≤ n ∧ n < 2 ^ 64

variable {fault : String → SettingFault} {least preset n : Nat} {given : Option String} {e : Failure}

theorem filter_readNumber?_eq_some_iff {text : String} :
    (readNumber? text).filter (least ≤ ·) = some n ↔ Taken least text n := by
  rw [Option.filter_eq_some_iff, readNumber?_eq_some_iff, decide_eq_true_eq, and_assoc, Taken,
    and_comm (a := n < 2 ^ 64)]

theorem number_eq_ok_iff : number fault least preset given = .ok n ↔
    given = none ∧ n = preset ∨ ∃ text, given = some text ∧ Taken least text n := by
  cases given with
  | none => simp [number, eq_comm]
  | some text =>
    simp only [reduceCtorEq, false_and, Option.some.injEq, exists_eq_left', false_or,
      ← filter_readNumber?_eq_some_iff, number]
    generalize (readNumber? text).filter (least ≤ ·) = read
    cases read <;> simp

theorem number_eq_error_iff : number fault least preset given = .error e ↔
    ∃ text, (given = some text ∧ ¬∃ n, Taken least text n) ∧ e = .setting (fault text) := by
  cases given with
  | none => simp [number]
  | some text =>
    simp only [Option.some.injEq, and_assoc, exists_eq_left', ← filter_readNumber?_eq_some_iff, number]
    generalize (readNumber? text).filter (least ≤ ·) = read
    cases read <;> simp [eq_comm]

/-- An environment gives settings where both numbers are given. -/
theorem ofEnvironment?_eq_ok_iff {env : Environment} {settings : Settings} :
    ofEnvironment? env = .ok settings ↔
      number .concurrency 1 standard.concurrency (env .concurrency) = .ok settings.concurrency ∧
      number .timeout 0 standard.timeout (env .timeout) = .ok settings.timeout ∧
      settings.database = (env .database).getD standard.database ∧
      settings.baseAddress = (env .baseAddress).getD standard.baseAddress ∧
      settings.token = (env .token).filter (· ≠ "") := by
  obtain ⟨database, baseAddress, token, concurrency, timeout⟩ := settings
  unfold ofEnvironment?
  cases number .concurrency 1 standard.concurrency (env .concurrency) with
  | error e => simp [bind, Except.bind]
  | ok n =>
    cases number .timeout 0 standard.timeout (env .timeout) with
    | error e => simp [bind, Except.bind]
    | ok k =>
      simp only [bind, Except.bind, pure, Except.pure, Except.ok.injEq, Settings.mk.injEq]
      constructor
      · rintro ⟨rfl, rfl, rfl, rfl, rfl⟩
        exact ⟨rfl, rfl, rfl, rfl, rfl⟩
      · rintro ⟨rfl, rfl, rfl, rfl, rfl⟩
        exact ⟨rfl, rfl, rfl, rfl, rfl⟩

/-- It fails as its first bad number does. -/
theorem ofEnvironment?_eq_error_iff {env : Environment} :
    ofEnvironment? env = .error e ↔
      number .concurrency 1 standard.concurrency (env .concurrency) = .error e ∨
      (∃ n, number .concurrency 1 standard.concurrency (env .concurrency) = .ok n) ∧
        number .timeout 0 standard.timeout (env .timeout) = .error e := by
  unfold ofEnvironment?
  cases number .concurrency 1 standard.concurrency (env .concurrency) with
  | error e => simp [bind, Except.bind]
  | ok n =>
    cases number .timeout 0 standard.timeout (env .timeout) <;>
      simp [bind, Except.bind, pure, Except.pure]

theorem exists_number_iff : (∃ n, number fault least preset given = .ok n) ↔
    ¬∃ text, given = some text ∧ ¬∃ n, Taken least text n := by
  cases taken : number fault least preset given with
  | ok n =>
    refine iff_of_true ⟨n, rfl⟩ ?_
    rintro ⟨text, refused⟩
    have failed : number fault least preset given = .error (.setting (fault text)) :=
      number_eq_error_iff.mpr ⟨text, refused, rfl⟩
    cases taken.symm.trans failed
  | error e =>
    obtain ⟨text, refused, _⟩ := number_eq_error_iff.mp taken
    exact iff_of_false (fun ⟨_, fine⟩ => by cases fine) (not_not_intro ⟨text, refused⟩)

/-- The settings of an environment, and when there are none. A number is refused if it is set, and no number
that is large enough and within 64 bits is spelled by its text. There are no settings exactly if the concurrency
or the timeout is refused; the fault is then that of the concurrency if it is refused, whatever the timeout is,
and it names the variable and quotes the text as it is given. Else both numbers are those that the texts spell,
or the standard ones where they are not set, and the other texts are taken as they are given, save that an empty
token is none. -/
theorem environment_read_exactly (env : Environment) :
    let refused (least : Nat) (v : Variable) (text : String) := env v = some text ∧ ¬∃ n, Taken least text n
    let given (least : Nat) (v : Variable) (preset n : Nat) :=
      env v = none ∧ n = preset ∨ ∃ text, env v = some text ∧ Taken least text n
    (∀ e, ofEnvironment? env = .error e ↔
      (∃ text, refused 1 .concurrency text ∧ e = .setting (.concurrency text)) ∨
      (¬∃ text, refused 1 .concurrency text) ∧
        ∃ text, refused 0 .timeout text ∧ e = .setting (.timeout text)) ∧
    (∀ text, (Failure.setting (.concurrency text)).message = "Invalid input: " ++
          (Variable.concurrency.name ++ " must be a positive integer, got '" ++ text ++ "'") ∧
        (Failure.setting (.timeout text)).message = "Invalid input: " ++
          (Variable.timeout.name ++ " must be a number of seconds, got '" ++ text ++ "'")) ∧
    ∀ settings, ofEnvironment? env = .ok settings ↔
      given 1 .concurrency standard.concurrency settings.concurrency ∧
      given 0 .timeout standard.timeout settings.timeout ∧
      settings.database = (env .database).getD standard.database ∧
      settings.baseAddress = (env .baseAddress).getD standard.baseAddress ∧
      ∀ token, settings.token = some token ↔ env .token = some token ∧ token ≠ "" := by
  intro refused given
  refine ⟨fun e => ?_, fun text => ⟨?_, ?_⟩, fun settings => ?_⟩
  · rw [ofEnvironment?_eq_error_iff, exists_number_iff, number_eq_error_iff, number_eq_error_iff]
  · have named : "PRICECACHE_DAY_FETCH_CONCURRENCY must be a positive integer, got '" =
        Variable.concurrency.name ++ " must be a positive integer, got '" := by decide
    rw [← named]
    rfl
  · have named : "PRICECACHE_HTTP_TIMEOUT_SECS must be a number of seconds, got '" =
        Variable.timeout.name ++ " must be a number of seconds, got '" := by decide
    rw [← named]
    rfl
  · have token : settings.token = (env .token).filter (· ≠ "") ↔
        ∀ t, settings.token = some t ↔ env .token = some t ∧ t ≠ "" := by
      rw [Option.ext_iff]
      simp only [Option.filter_eq_some_iff, decide_eq_true_eq]
    rw [ofEnvironment?_eq_ok_iff, number_eq_ok_iff, number_eq_ok_iff, token]

/-- Both numbers at their limits, and then the timeout one above its own. -/
theorem environment_read_exactly_at_limits :
    let env (timeout : String) : Environment
      | .concurrency => some " +0018446744073709551615\u00a0"
      | .timeout => some timeout
      | .token => some ""
      | _ => none
    ofEnvironment? (env "0") = .ok { standard with concurrency := 2 ^ 64 - 1, timeout := 0 } ∧
      ofEnvironment? (env " 18446744073709551616") =
        .error (.setting (.timeout " 18446744073709551616")) := by
  intro env
  have most : Taken 1 " +0018446744073709551615\u00a0" (2 ^ 64 - 1) :=
    filter_readNumber?_eq_some_iff.mp (by decide +kernel)
  have none : Taken 0 "0" 0 := filter_readNumber?_eq_some_iff.mp (by decide +kernel)
  constructor
  · obtain ⟨_, _, read⟩ := environment_read_exactly (env "0")
    exact (read _).mpr ⟨.inr ⟨_, rfl, most⟩, .inr ⟨_, rfl, none⟩, rfl, rfl, by simp [env, standard]⟩
  · obtain ⟨fails, _, _⟩ := environment_read_exactly (env " 18446744073709551616")
    refine (fails _).mpr (.inr ⟨?_, " 18446744073709551616", ⟨rfl, ?_⟩, rfl⟩)
    · rintro ⟨text, set, refused⟩
      cases set
      exact refused ⟨_, most⟩
    · rintro ⟨n, taken⟩
      have unread : (readNumber? " 18446744073709551616").filter (0 ≤ ·) = .none := by decide +kernel
      cases unread.symm.trans (filter_readNumber?_eq_some_iff.mpr taken)

end PriceHistory.Settings
