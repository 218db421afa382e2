import ParamSql.Execution.Cursor
import ParamSql.Proofs.Results

/-!
Statements that are sent with named parameters.

In a text that is sent with parameters, `%%` is a percent sign and `%(name)s` stands for the
parameter of that name; any other percent sign is an error (`Slot.read`). A text that is sent alone
is taken as it is. Either way a statement arrives as it was written, with every placeholder replaced
by its value (`request_arrives`), and what was written can be told from what is sent.
-/

namespace ParamSql

/-! ## The reader -/

/-- A part of a text that is sent with parameters: a character, or the place of a parameter. -/
inductive Slot where
  | char (c : Char)
  | parameter (name : String)

namespace Slot

/-- Reads a text that is sent with parameters; inside `%(…)s` the first argument holds what has been
read of the name. -/
def read : Option (List Char) → List Char → Option (List Slot)
  | none, [] => some []
  | none, '%' :: '%' :: rest => (read none rest).map (char '%' :: ·)
  | none, '%' :: '(' :: rest => read (some []) rest
  | none, '%' :: _ => none
  | none, c :: rest => (read none rest).map (char c :: ·)
  | some name, ')' :: 's' :: rest => (read none rest).map (parameter (String.ofList name) :: ·)
  | some _, ')' :: _ => none
  | some name, c :: rest => read (some (name ++ [c])) rest
  | some _, [] => none

/-- What a token is read as once it is named. -/
def ofToken : Token → Slot
  | .char c => char c
  | .parameter digits => parameter (String.ofList ('p' :: digits))

theorem read_char (c : Char) (rest : List Char) :
    read none ((Token.char c).named ++ rest) = (read none rest).map (char c :: ·) := by
  by_cases hc : c = '%'
  · subst hc
    simp [Token.named, read]
  · simp only [Token.named, beq_iff_eq, hc, if_false, List.singleton_append]
    rw [read]
    all_goals simp [hc]

theorem read_name {name : List Char} (hname : ∀ c ∈ name, c ≠ ')') (before rest : List Char) :
    read (some before) (name ++ ')' :: 's' :: rest) =
      (read none rest).map (parameter (String.ofList (before ++ name)) :: ·) := by
  induction name generalizing before with
  | nil => simp [read]
  | cons c name ih =>
    obtain ⟨hc, hrest⟩ := List.forall_mem_cons.1 hname
    have hstep : read (some before) (c :: (name ++ ')' :: 's' :: rest)) =
        read (some (before ++ [c])) (name ++ ')' :: 's' :: rest) := by
      rw [read]
      all_goals simp [hc]
    rw [List.cons_append, hstep, ih hrest, List.append_assoc, List.singleton_append]

/-- Tokens are read back from their named form. -/
theorem read_flatMap_named {ts : List Token}
    (h : ∀ digits, .parameter digits ∈ ts → ∀ c ∈ digits, c ≠ ')') :
    read none (ts.flatMap Token.named) = some (ts.map ofToken) := by
  induction ts with
  | nil => rfl
  | cons t rest ih =>
    have hrest := ih fun digits hdigits => h digits (List.mem_cons_of_mem t hdigits)
    rw [List.flatMap_cons, List.map_cons]
    cases t with
    | char c =>
      rw [read_char, hrest]
      rfl
    | parameter digits =>
      have hname : ∀ c ∈ 'p' :: digits, c ≠ ')' :=
        List.forall_mem_cons.2 ⟨by decide, h digits List.mem_cons_self⟩
      have hnamed : (Token.parameter digits).named ++ rest.flatMap Token.named =
          '%' :: '(' :: ('p' :: digits ++ ')' :: 's' :: rest.flatMap Token.named) := by
        simp [Token.named]
      rw [hnamed, read, read_name hname, hrest]
      rfl

end Slot

namespace Token

/-- The digits of placeholders are decimal digits. -/
theorem isDecimalDigit_of_mem_scan (cs : List Char) :
    (∀ c ∈ (scan cs).1, Text.isDecimalDigit c = true) ∧
      ∀ digits, .parameter digits ∈ (scan cs).2 → ∀ c ∈ digits, Text.isDecimalDigit c = true := by
  induction cs with
  | nil => exact ⟨by simp [scan], by simp [scan]⟩
  | cons c rest ih =>
    obtain ⟨hfirst, hlater⟩ := ih
    rw [scan]
    split
    · next hc => exact ⟨List.forall_mem_cons.2 ⟨hc, hfirst⟩, hlater⟩
    · split
      · refine ⟨List.forall_mem_nil _, fun digits hdigits => ?_⟩
        rcases List.mem_cons.1 hdigits with hhere | hrest
        · obtain rfl : digits = (scan rest).1 := Token.parameter.inj hhere
          exact hfirst
        · exact hlater digits hrest
      · refine ⟨List.forall_mem_nil _, fun digits hdigits => ?_⟩
        rcases List.mem_append.1 hdigits with hchars | hrest
        · simp at hchars
        · exact hlater digits hrest

theorem isDecimalDigit_of_mem_tokens {cs digits : List Char}
    (h : .parameter digits ∈ tokens cs) : ∀ c ∈ digits, Text.isDecimalDigit c = true := by
  rcases List.mem_append.1 h with hchars | hscan
  · simp at hchars
  · exact (isDecimalDigit_of_mem_scan cs).2 digits hscan

end Token

/-- A text is read back, token by token, from its named form. -/
theorem Slot.read_nameParameters (text : String) :
    read none (Token.nameParameters text).toList =
      some ((Token.tokens text.toList).map ofToken) := by
  rw [Token.nameParameters, String.toList_ofList]
  refine read_flatMap_named fun digits hdigits c hc => ?_
  rintro rfl
  exact absurd (Token.isDecimalDigit_of_mem_tokens hdigits ')' hc) (by decide)

/-! ## Undoing the named form -/

namespace Slot

/-- The text of a part when the named form is undone: `%%` is a percent sign again, and `%(pX)s` is
`$X`. -/
def source : Slot → List Char
  | char c => [c]
  | parameter name => '$' :: name.toList.tail

def undo (sent : String) : Option String :=
  (read none sent.toList).map fun slots => String.ofList (slots.flatMap source)

theorem source_ofToken (t : Token) : (ofToken t).source = t.text := by
  cases t with
  | char c => rfl
  | parameter digits => simp [ofToken, source, Token.text]

theorem undo_nameParameters (text : String) : undo (Token.nameParameters text) = some text := by
  have hsource : ((Token.tokens text.toList).map ofToken).flatMap source = text.toList := by
    simp only [List.flatMap_map, source_ofToken]
    exact Token.text_tokens text.toList
  rw [undo, read_nameParameters, Option.map_some, hsource, String.ofList_toList]

theorem nameParameters_injective : Function.Injective Token.nameParameters := by
  intro text text' h
  have hundo := congrArg undo h
  rw [undo_nameParameters, undo_nameParameters] at hundo
  exact Option.some.inj hundo

end Slot

/-! ## Parameters -/

/-- A part of a statement as it arrives: a character, or the value of a parameter. -/
inductive Arrival where
  | char (c : Char)
  | value (v : Value)
  deriving Repr

/-- What arrives for a part of a text that is sent with parameters. -/
def Slot.filled (parameters : List (String × Value)) : Slot → Option Arrival
  | char c => some (.char c)
  | parameter name => (parameters.lookup name).map .value

/-- What arrives when a text is sent, with parameters or alone. -/
def Cursor.arrived (text : String) : Option (List (String × Value)) → Option (List Arrival)
  | none => some (text.toList.map .char)
  | some parameters => (Slot.read none text.toList).bind (List.mapM (Slot.filled parameters))

/-- A token arrives as it stands, and the placeholder `$i` as the value in place `i`. -/
inductive Token.Arrives (vs : List Value) : Token → Arrival → Prop where
  | char (c : Char) : Arrives vs (.char c) (.char c)
  | parameter {i : Nat} {v : Value} (h : vs[i]? = some v) :
    Arrives vs (.parameter (Nat.toDigits 10 (i + 1))) (.value v)

/-- A placeholder has a number from one to `n`, written in plain digits. -/
def Token.UpTo (n : Nat) : Token → Prop
  | char _ => True
  | parameter digits => ∃ i < n, digits = Nat.toDigits 10 (i + 1)

instance (n : Nat) : DecidablePred (Token.UpTo n)
  | .char _ => .isTrue trivial
  | .parameter digits => inferInstanceAs (Decidable (∃ i < n, digits = Nat.toDigits 10 (i + 1)))

def Token.NumberedUpTo (n : Nat) (text : String) : Prop :=
  ∀ t ∈ tokens text.toList, t.UpTo n

instance (n : Nat) (text : String) : Decidable (Token.NumberedUpTo n text) :=
  inferInstanceAs (Decidable (∀ t ∈ Token.tokens text.toList, t.UpTo n))

theorem toDigits_injective {n m : Nat} (h : Nat.toDigits 10 n = Nat.toDigits 10 m) : n = m := by
  have hvalue := congrArg (fun digits => Nat.ofDigitChars 10 digits 0) h
  simpa only [Nat.ofDigitChars_ten_toDigits] using hvalue

theorem Cursor.lookup_named (start i : Nat) (vs : List Value) :
    (named start vs).lookup (String.ofList ('p' :: Nat.toDigits 10 (start + i))) = vs[i]? := by
  induction vs generalizing start i with
  | nil => rfl
  | cons v rest ih =>
    have hname : ∀ n, "p" ++ String.ofList (Nat.toDigits 10 n) =
        String.ofList ('p' :: Nat.toDigits 10 n) := by
      intro n
      simp
    rw [named, hname, List.lookup_cons]
    cases i with
    | zero => simp
    | succ i =>
      have hother : String.ofList ('p' :: Nat.toDigits 10 (start + (i + 1))) ≠
          String.ofList ('p' :: Nat.toDigits 10 start) := by
        intro heq
        have hdigits := toDigits_injective (List.cons.inj (String.ofList_injective heq)).2
        omega
      rw [beq_eq_false_iff_ne.2 hother, List.getElem?_cons_succ, ← ih (start + 1) i,
        Nat.add_right_comm, Nat.add_assoc]

/-! ## What arrives -/

theorem mapM_eq_some {α β : Type} {f : α → Option β} {as : List α} {bs : List β}
    (h : List.Forall₂ (fun a b => f a = some b) as bs) : as.mapM f = some bs := by
  induction h with
  | nil => rfl
  | cons ha _ ih =>
    rw [List.mapM_cons, ha, ih]
    rfl

namespace Token

variable {vs : List Value} {text : String} {n : Nat}

theorem Arrives.filled {t : Token} {a : Arrival} (h : Arrives vs t a) :
    Slot.filled (Cursor.named 1 vs) (Slot.ofToken t) = some a := by
  cases h with
  | char c => rfl
  | @parameter i v hv =>
    rw [Slot.ofToken, Slot.filled, Nat.add_comm i 1, Cursor.lookup_named, hv, Option.map_some]

/-- If every placeholder is numbered up to the number of values, each of them has one. -/
theorem NumberedUpTo.exists_arrives (h : NumberedUpTo vs.length text) :
    ∃ arrived, List.Forall₂ (Arrives vs) (tokens text.toList) arrived := by
  refine exists_forall₂ fun t ht => ?_
  cases t with
  | char c => exact ⟨.char c, .char c⟩
  | parameter digits =>
    obtain ⟨i, hi, rfl⟩ := h _ ht
    exact ⟨.value vs[i], .parameter (List.getElem?_eq_getElem hi)⟩

/-- A text without placeholders is its characters. -/
theorem NumberedUpTo.tokens_eq (h : NumberedUpTo 0 text) :
    tokens text.toList = text.toList.map .char := by
  have hchars : ∀ t ∈ tokens text.toList, ∃ c, t = .char c := by
    intro t ht
    cases t with
    | char c => exact ⟨c, rfl⟩
    | parameter digits =>
      obtain ⟨i, hi, -⟩ := h _ ht
      exact absurd hi (Nat.not_lt_zero i)
  obtain ⟨cs, hcs⟩ := exists_forall₂ hchars
  have htokens : tokens text.toList = cs.map .char := by
    rw [← List.forall₂_eq_eq_eq]
    exact List.forall₂_map_right_iff.2 hcs
  have htext := text_tokens text.toList
  rw [htokens, flatMap_text_map_char] at htext
  rw [htokens, htext]

end Token

namespace Cursor

theorem arrived_nameParameters (text : String) (parameters : List (String × Value)) :
    Cursor.arrived (Token.nameParameters text) (some parameters) =
      ((Token.tokens text.toList).map Slot.ofToken).mapM (Slot.filled parameters) := by
  rw [Cursor.arrived, Slot.read_nameParameters, Option.bind_some]

theorem arrived_named {vs : List Value} {text : String} {arrived : List Arrival}
    (h : List.Forall₂ (Token.Arrives vs) (Token.tokens text.toList) arrived) :
    Cursor.arrived (Token.nameParameters text) (some (named 1 vs)) = some arrived := by
  rw [arrived_nameParameters]
  refine mapM_eq_some (List.forall₂_map_left_iff.2 (h.imp ?_))
  intro t a ha
  exact ha.filled

/-- A text without placeholders arrives in the same way with parameters and alone. -/
theorem arrived_of_numberedUpTo_zero {text : String} (h : Token.NumberedUpTo 0 text)
    (parameters : List (String × Value)) :
    Cursor.arrived (Token.nameParameters text) (some parameters) =
      Cursor.arrived text none := by
  have hslots : (Token.tokens text.toList).map Slot.ofToken = text.toList.map .char := by
    rw [h.tokens_eq, List.map_map]
    rfl
  rw [arrived_nameParameters, hslots]
  apply mapM_eq_some
  rw [List.forall₂_map_left_iff, List.forall₂_map_right_iff, List.forall₂_same]
  intro c _
  rfl

theorem request_nil (text : String) : request text (.list []) = .ok (text, none) := rfl

theorem request_cons (text : String) (v : Value) (rest : List Value) :
    request text (.list (v :: rest)) =
      .ok (Token.nameParameters text, some (named 1 (v :: rest))) := rfl

end Cursor

/-- A statement arrives as it was written. If its placeholders are numbered up to the number of its
values, what a cursor is asked to execute is read without error, and each placeholder `$i` arrives
as the value in place `i`, everything else as it stands. A text without placeholders arrives the
same with parameters and alone. And whatever a text holds, undoing its named form gives it back, so
that no two texts have the same one. -/
theorem request_arrives :
    (∀ (text : String) (vs : List Value), Token.NumberedUpTo vs.length text →
      ∃ sent parameters arrived, Cursor.request text (.list vs) = .ok (sent, parameters) ∧
        Cursor.arrived sent parameters = some arrived ∧
        List.Forall₂ (Token.Arrives vs) (Token.tokens text.toList) arrived) ∧
    (∀ (text : String) (parameters : List (String × Value)), Token.NumberedUpTo 0 text →
      Cursor.arrived (Token.nameParameters text) (some parameters) =
        Cursor.arrived text none) ∧
    (∀ text : String, Slot.undo (Token.nameParameters text) = some text) ∧
    Function.Injective Token.nameParameters := by
  refine ⟨?_, fun text parameters h => Cursor.arrived_of_numberedUpTo_zero h parameters,
    Slot.undo_nameParameters, Slot.nameParameters_injective⟩
  intro text vs h
  obtain ⟨arrived, harrived⟩ := h.exists_arrives
  have hnamed := Cursor.arrived_named harrived
  cases vs with
  | nil =>
    -- Without values the text is sent alone, which is the same since it has no placeholders.
    rw [Cursor.arrived_of_numberedUpTo_zero h] at hnamed
    exact ⟨text, none, arrived, Cursor.request_nil text, hnamed, harrived⟩
  | cons v rest =>
    exact ⟨_, _, arrived, Cursor.request_cons text v rest, hnamed, harrived⟩

theorem request_arrives_percent :
    (∃ sent parameters arrived,
      Cursor.request "a % $2 = '%(p1)s' || $1" (.list [.int 7, .null]) = .ok (sent, parameters) ∧
        Cursor.arrived sent parameters = some arrived ∧
        List.Forall₂ (Token.Arrives [.int 7, .null])
          (Token.tokens "a % $2 = '%(p1)s' || $1".toList) arrived) ∧
      Cursor.arrived "100%%" (some []) = Cursor.arrived "100%" none := by
  obtain ⟨harrives, halone, -⟩ := request_arrives
  refine ⟨harrives _ _ ?_, halone "100%" [] ?_⟩
  · decide
  · decide

end ParamSql
