import GnssMonitor.Proofs.Command.Execution
import GnssMonitor.Proofs.Text.Number

/-! Which line settings an operator asks for: a speed and, behind a colon, a framing. Every text that
is read spells one request, and every request is read. -/

namespace GnssMonitor.Monitor

open Text (isBlank isDigit digitsValue digitLimit)

/-- Text that begins with a number: white space, digits, and behind them anything but a digit. -/
inductive Spells : List Char → Int → Prop
  | number (blanks digits rest : List Char) (blank : ∀ c ∈ blanks, isBlank c = true)
      (nonempty : digits ≠ []) (digit : ∀ c ∈ digits, isDigit c = true)
      (few : digits.length ≤ digitLimit) (ends : ∀ c ∈ rest.head?, isDigit c = false) :
      Spells (blanks ++ digits ++ rest) (digitsValue digits)

/-- Text that begins with a framing, a character for each part of it. -/
inductive Frames : List Char → Int × String × Int → Prop
  | parts {w p s : Char} {wordLength stopBits : Int} {parity : String} (rest : List Char)
      (length : (w, wordLength) ∈ [('7', 7), ('8', 8)])
      (sort : (p, parity) ∈ [('N', "N"), ('O', "O"), ('E', "E")])
      (stops : (s, stopBits) ∈ [('1', 1), ('2', 2)]) :
      Frames (w :: p :: s :: rest) (wordLength, parity, stopBits)

/-- Text that asks for line settings. A framing that is not given is the present one. -/
inductive Requests (present : LineSettings) : List Char → LineSettings → Prop
  | speed {head : List Char} {baud : Int} (plain : ∀ c ∈ head, isColon c = false)
      (spells : Spells head baud) : Requests present head { present with baud }
  | framed {head framing : List Char} {baud wordLength stopBits : Int} {parity : String}
      (plain : ∀ c ∈ head, isColon c = false) (spells : Spells head baud)
      (frames : Frames framing (wordLength, parity, stopBits)) :
      Requests present (head ++ ':' :: framing) ⟨baud, wordLength, parity, stopBits⟩

theorem readSpeed_iff {head : List Char} {baud : Int} :
    readSpeed head = some (.ok baud) ↔ Spells head baud := by
  constructor
  · intro read
    let text := head.dropWhile isBlank
    have split : head = head.takeWhile isBlank ++ text.takeWhile isDigit ++
        text.dropWhile isDigit := by
      rw [List.append_assoc, List.takeWhile_append_dropWhile, List.takeWhile_append_dropWhile]
    have digit : ∀ c ∈ text.takeWhile isDigit, isDigit c = true :=
      fun c there => List.mem_takeWhile_imp there
    unfold readSpeed at read
    simp only [List.isEmpty_iff] at read
    by_cases empty : text.takeWhile isDigit = []
    · rw [if_pos empty] at read
      contradiction
    · rw [if_neg empty, Text.readInteger_digits digit empty] at read
      have read := Option.some.inj read
      split at read
      · contradiction
      · rename_i few
        obtain rfl := Except.ok.inj read
        rw [split]
        refine .number _ _ _ (fun c there => List.mem_takeWhile_imp there) empty digit
          (Nat.le_of_not_lt few) ?_
        intro c first
        have := List.head?_dropWhile_not isDigit text
        rw [Option.mem_def.mp first] at this
        simpa using this
  · rintro ⟨blanks, digits, rest, blank, nonempty, digit, few, ends⟩
    obtain ⟨c, more, rfl⟩ := List.exists_cons_of_ne_nil nonempty
    have begun : (blanks ++ (c :: more) ++ rest).dropWhile isBlank = (c :: more) ++ rest := by
      rw [List.append_assoc, List.dropWhile_append_of_pos blank, List.cons_append,
        List.dropWhile_cons, Text.isBlank_of_isDigit (digit c List.mem_cons_self)]
      rfl
    have ended : rest.takeWhile isDigit = [] := by
      cases rest with
      | nil => rfl
      | cons d rest =>
        rw [List.takeWhile_cons, ends d rfl]
        rfl
    have taken : ((c :: more) ++ rest).takeWhile isDigit = c :: more := by
      rw [List.takeWhile_append_of_pos digit, ended, List.append_nil]
    unfold readSpeed
    simp only [begun, taken, Text.readInteger_digits digit nonempty, List.isEmpty_cons,
      Bool.false_eq_true, if_false, if_neg (Nat.not_lt.mpr few)]

theorem readFraming_iff {cs : List Char} {framing : Int × String × Int} :
    readFraming cs = .ok framing ↔ Frames cs framing := by
  constructor
  · intro read
    unfold readFraming at read
    dsimp only at read
    split at read
    · contradiction
    split at read
    · contradiction
    split at read
    · contradiction
    rename_i length sort stops
    obtain rfl := Except.ok.inj read
    match cs with
    | [] => simp at length
    | [w] => simp at sort
    | [w, p] => simp at stops
    | w :: p :: s :: rest =>
      simp only [List.getD_cons_zero, List.getD_cons_succ, Decidable.not_not, List.mem_cons,
        List.not_mem_nil, or_false] at length sort stops ⊢
      apply Frames.parts
      · obtain rfl | rfl := length <;> decide
      · obtain rfl | rfl | rfl := sort <;> decide
      · obtain rfl | rfl := stops <;> decide
  · rintro ⟨rest, length, sort, stops⟩
    simp only [List.mem_cons, List.not_mem_nil, or_false, Prod.mk.injEq] at length sort stops
    obtain ⟨rfl, rfl⟩ | ⟨rfl, rfl⟩ := length <;>
      obtain ⟨rfl, rfl⟩ | ⟨rfl, rfl⟩ | ⟨rfl, rfl⟩ := sort <;>
        obtain ⟨rfl, rfl⟩ | ⟨rfl, rfl⟩ := stops <;> rfl

theorem withSpeed_iff {head : List Char} {framed line : LineSettings} :
    withSpeed head framed = .ok (.ok line) ↔
      ∃ baud, Spells head baud ∧ line = { framed with baud } := by
  simp only [← readSpeed_iff]
  unfold withSpeed
  match readSpeed head with
  | none => simp
  | some (.error e) => simp [Except.map]
  | some (.ok baud) =>
    constructor
    · intro read
      exact ⟨baud, rfl, (Except.ok.inj (Except.ok.inj read)).symm⟩
    · rintro ⟨baud', same, rfl⟩
      obtain rfl := Except.ok.inj (Option.some.inj same)
      rfl

section

variable {present line : LineSettings} {head framing : List Char}

theorem readLine_plain (plain : ∀ c ∈ head, isColon c = false) :
    readLine present head = withSpeed head present := by
  have other : ∀ c ∈ head, (!isColon c) = true := fun c there => by rw [plain c there]; rfl
  have taken : head.takeWhile (!isColon ·) = head := List.takeWhile_eq_self_iff.mpr other
  have nothing : head.dropWhile (!isColon ·) = [] := List.dropWhile_eq_nil_iff.mpr other
  unfold readLine
  simp only [taken, nothing]
  rfl

theorem readLine_framed (plain : ∀ c ∈ head, isColon c = false) :
    readLine present (head ++ ':' :: framing) = match readFraming framing with
      | .error text => .error text
      | .ok (wordLength, parity, stopBits) =>
        withSpeed head { present with wordLength, parity, stopBits } := by
  have other : ∀ c ∈ head, (!isColon c) = true := fun c there => by rw [plain c there]; rfl
  have taken : (head ++ ':' :: framing).takeWhile (!isColon ·) = head := by
    rw [List.takeWhile_append_of_pos other]
    exact List.append_nil head
  have left : (head ++ ':' :: framing).dropWhile (!isColon ·) = ':' :: framing := by
    rw [List.dropWhile_append_of_pos other]
    rfl
  unfold readLine
  simp only [taken, left]
  cases readFraming framing <;> rfl

/-- What is read are the requests. -/
theorem readLine_iff {arg : List Char} :
    readLine present arg = .ok (.ok line) ↔ Requests present arg line := by
  constructor
  · intro read
    have split := List.takeWhile_append_dropWhile (p := (!isColon ·)) (l := arg)
    have plain : ∀ c ∈ arg.takeWhile (!isColon ·), isColon c = false := by
      intro c there
      simpa using List.mem_takeWhile_imp there
    cases tail : arg.dropWhile (!isColon ·) with
    | nil =>
      rw [tail, List.append_nil] at split
      rw [split] at plain
      rw [readLine_plain plain] at read
      obtain ⟨baud, spells, rfl⟩ := withSpeed_iff.mp read
      exact .speed plain spells
    | cons c framing =>
      have colon := List.head?_dropWhile_not (!isColon ·) arg
      rw [tail] at colon
      obtain rfl : c = ':' := by simpa [isColon] using colon
      rw [tail] at split
      rw [← split, readLine_framed plain] at read
      rw [← split]
      match framed : readFraming framing with
      | .error text =>
        rw [framed] at read
        contradiction
      | .ok (wordLength, parity, stopBits) =>
        rw [framed] at read
        obtain ⟨baud, spells, rfl⟩ := withSpeed_iff.mp read
        exact .framed plain spells (readFraming_iff.mp framed)
  · intro asked
    cases asked with
    | speed plain spells =>
      rw [readLine_plain plain]
      exact withSpeed_iff.mpr ⟨_, spells, rfl⟩
    | framed plain spells frames =>
      rw [readLine_framed plain, readFraming_iff.mpr frames]
      exact withSpeed_iff.mpr ⟨_, spells, rfl⟩

end

end GnssMonitor.Monitor
