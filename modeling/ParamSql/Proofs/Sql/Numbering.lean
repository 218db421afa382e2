import Mathlib.Algebra.GroupWithZero.Nat
import ParamSql.Proofs.Identifier
import ParamSql.Proofs.Sql.Token
import ParamSql.Sql

/-!
The placeholders of a written fragment.

A fragment spells tokens: its texts character by character and a placeholder for every hole. It is
`Numbered n` if it has `n` holes, no room, and tokens that can be read back whatever number comes
first. Such fragments are put together by the rules below, the placeholders in the written text are
the holes in order (`Numbered.placeholders`), and writing a fragment further behind raises all its
placeholders (`Numbered.renumber_collapse_write`).
-/

namespace ParamSql.Sql

/-! ## The tokens of a fragment -/

/-- The tokens of pieces, with `taken` parameters before them. -/
def pieceTokens (taken : Nat) : List Piece → List Token
  | [] => []
  | .text s :: rest => s.toList.map .char ++ pieceTokens taken rest
  | .hole :: rest => .parameter (Nat.toDigits 10 (taken + 1)) :: pieceTokens (taken + 1) rest
  | .room count :: rest => pieceTokens (taken + count) rest

def tokens (taken : Nat) (sql : Sql) : List Token :=
  pieceTokens taken sql.pieces

theorem toList_writePieces (taken : Nat) (ps : List Piece) :
    (writePieces taken ps).toList = (pieceTokens taken ps).flatMap Token.text := by
  induction ps generalizing taken with
  | nil => rfl
  | cons p rest ih =>
    cases p with
    | text s =>
      rw [writePieces, pieceTokens, String.toList_append, ih, List.flatMap_append,
        Token.flatMap_text_map_char]
    | hole =>
      have hdigits : (placeholder (taken + 1)).toList =
          (Token.parameter (Nat.toDigits 10 (taken + 1))).text := by
        simp [placeholder, Token.text]
      rw [writePieces, pieceTokens, String.toList_append, ih, List.flatMap_cons, hdigits]
    | room count => rw [writePieces, pieceTokens, ih]

theorem write_eq (taken : Nat) (sql : Sql) :
    sql.write taken = String.ofList ((sql.tokens taken).flatMap Token.text) := by
  rw [← String.toList_inj, String.toList_ofList]
  exact toList_writePieces taken sql.pieces

theorem pieceTokens_append (taken : Nat) (ps qs : List Piece) :
    pieceTokens taken (ps ++ qs) =
      pieceTokens taken ps ++ pieceTokens (taken + piecesArity ps) qs := by
  induction ps generalizing taken with
  | nil => rfl
  | cons p rest ih =>
    cases p <;>
      simp [pieceTokens, piecesArity, Piece.arity, ih, Nat.add_assoc]

theorem tokens_append (taken : Nat) (a b : Sql) :
    (a ++ b).tokens taken = a.tokens taken ++ b.tokens (taken + a.arity) :=
  pieceTokens_append taken a.pieces b.pieces

theorem map_shift_pieceTokens (k taken : Nat) (ps : List Piece) :
    (pieceTokens taken ps).map (Token.shift k) = pieceTokens (taken + k) ps := by
  induction ps generalizing taken with
  | nil => rfl
  | cons p rest ih =>
    cases p with
    | text s =>
      rw [pieceTokens, pieceTokens, List.map_append, List.map_map, ih]
      rfl
    | hole =>
      rw [pieceTokens, pieceTokens, List.map_cons, ih, Token.shift, Nat.ofDigitChars_ten_toDigits,
        Nat.add_right_comm]
    | room count => rw [pieceTokens, pieceTokens, ih, Nat.add_right_comm]

/-- A fragment behind `k` more parameters has all its placeholders raised by `k`. -/
theorem map_shift_tokens (k taken : Nat) (sql : Sql) :
    (sql.tokens taken).map (Token.shift k) = sql.tokens (taken + k) :=
  map_shift_pieceTokens k taken sql.pieces

/-! ## Numbered fragments -/

/-- The fragment has `n` holes and no room, and its tokens can be read back from its text. -/
structure Numbered (n : Nat) (sql : Sql) : Prop where
  arity : sql.arity = n
  roomless : ∀ k, Piece.room k ∈ sql.pieces → k = 0
  readable : ∀ taken, Token.Readable (sql.tokens taken)

/-- The text starts with a character that ends a placeholder, and has no dollar sign. -/
def Stops (s : String) : Prop :=
  DollarFree s ∧ (s.toList.head?.any fun c => !Text.isDecimalDigit c) = true

instance (s : String) : Decidable (Stops s) :=
  inferInstanceAs (Decidable (_ ∧ _))

theorem numbered_empty : Numbered 0 empty :=
  ⟨rfl, by simp [empty], fun _ => Token.readable_nil⟩

theorem tokens_verbatim (taken : Nat) (s : String) :
    (verbatim s).tokens taken = s.toList.map .char :=
  List.append_nil _

theorem numbered_verbatim {s : String} (h : DollarFree s) : Numbered 0 (verbatim s) := by
  refine ⟨rfl, by simp [verbatim], fun taken => ?_⟩
  rw [tokens, verbatim, pieceTokens, pieceTokens]
  exact Token.readable_nil.chars_append h

theorem legible_parameter (n : Nat) : (Token.parameter (Nat.toDigits 10 n)).Legible :=
  ⟨Nat.toDigits_ne_nil, fun _ hd => Nat.isDigit_of_mem_toDigits (by decide) (by decide) hd⟩

theorem numbered_hole : Numbered 1 hole :=
  ⟨rfl, by simp [hole], fun taken =>
    Token.readable_nil.cons_parameter (legible_parameter (taken + 1)) fun _ h => nomatch h⟩

theorem numbered_room : Numbered 0 (room 0) :=
  ⟨rfl, by simp [room], fun _ => Token.readable_nil⟩

variable {n m : Nat} {a b : Sql} {s : String}

theorem Numbered.append (ha : Numbered n a) (hb : Numbered m b)
    (hbetween : ∀ taken, ∀ t ∈ (a.tokens taken).getLast?,
      ∀ u ∈ (b.tokens (taken + a.arity)).head?, Token.Separate t u) :
    Numbered (n + m) (a ++ b) := by
  refine ⟨by rw [arity_append, ha.arity, hb.arity], fun k hk => ?_, fun taken => ?_⟩
  · rcases List.mem_append.1 hk with hk | hk
    · exact ha.roomless k hk
    · exact hb.roomless k hk
  · rw [tokens_append]
    exact (ha.readable taken).append (hb.readable _) (hbetween taken)

/-- Any numbered fragment may stand behind text. -/
theorem Numbered.text_append (hs : DollarFree s) (hb : Numbered n b) :
    Numbered n (verbatim s ++ b) := by
  have h := (numbered_verbatim hs).append hb fun taken t ht u _ => ?_
  · rwa [Nat.zero_add] at h
  · rw [tokens_verbatim, List.getLast?_map] at ht
    obtain ⟨c, -, rfl⟩ := Option.map_eq_some_iff.1 ht
    trivial

theorem append_assoc (a b c : Sql) : a ++ b ++ c = a ++ (b ++ c) :=
  congrArg Sql.mk (List.append_assoc a.pieces b.pieces c.pieces)

theorem append_empty (a : Sql) : a ++ empty = a :=
  congrArg Sql.mk (List.append_nil a.pieces)

/-- Two numbered fragments with a text between them that ends a placeholder. -/
theorem Numbered.append_stop (ha : Numbered n a) (hs : Stops s) (hb : Numbered m b) :
    Numbered (n + m) (a ++ verbatim s ++ b) := by
  rw [append_assoc]
  -- Only the first character of the text stands right behind `a`, and it is no digit.
  refine ha.append (hb.text_append hs.1) fun taken t _ u hu => ?_
  rw [tokens_append, tokens_verbatim] at hu
  obtain ⟨c, hc, hdigit⟩ := Option.any_eq_true _ _ |>.1 hs.2
  rw [List.head?_append, List.head?_map, hc] at hu
  obtain rfl : Token.char c = u := by simpa using hu
  cases t with
  | char d => trivial
  | parameter ds => exact (Bool.not_eq_true' _).mp hdigit

/-- A numbered fragment with a text behind it that ends a placeholder. -/
theorem Numbered.append_text (ha : Numbered n a) (hs : Stops s) :
    Numbered n (a ++ verbatim s) := by
  have h := ha.append_stop hs numbered_empty
  rwa [append_empty] at h

/-! ## Lists of fragments -/

/-- Numbered fragments with `n` holes altogether. -/
structure NumberedAll (n : Nat) (fs : List Sql) : Prop where
  each : ∀ f ∈ fs, Numbered f.arity f
  total : (fs.map arity).sum = n

theorem numberedAll_nil : NumberedAll 0 [] :=
  ⟨fun _ h => (nomatch h), rfl⟩

theorem NumberedAll.cons {fs : List Sql} (ha : Numbered n a) (hfs : NumberedAll m fs) :
    NumberedAll (n + m) (a :: fs) := by
  refine ⟨fun f hf => ?_, by rw [List.map_cons, List.sum_cons, ha.arity, hfs.total]⟩
  rcases List.mem_cons.1 hf with rfl | hf
  · rw [ha.arity]
    exact ha
  · exact hfs.each f hf

theorem numberedAll_singleton (ha : Numbered n a) : NumberedAll n [a] :=
  NumberedAll.cons ha numberedAll_nil

theorem numberedAll_map {α : Type} {f : α → Sql} {as : List α} (h : ∀ a ∈ as, Numbered n (f a)) :
    NumberedAll (as.length * n) (as.map f) := by
  induction as with
  | nil =>
    rw [List.length_nil, Nat.zero_mul]
    exact numberedAll_nil
  | cons a rest ih =>
    obtain ⟨ha, hrest⟩ := List.forall_mem_cons.1 h
    rw [List.length_cons, Nat.succ_mul, Nat.add_comm]
    exact .cons ha (ih hrest)

theorem NumberedAll.append {fs gs : List Sql} (hfs : NumberedAll n fs) (hgs : NumberedAll m gs) :
    NumberedAll (n + m) (fs ++ gs) := by
  refine ⟨fun f hf => ?_, by rw [List.map_append, List.sum_append, hfs.total, hgs.total]⟩
  rcases List.mem_append.1 hf with hf | hf
  · exact hfs.each f hf
  · exact hgs.each f hf

theorem NumberedAll.head {fs : List Sql} (h : NumberedAll n (a :: fs)) : Numbered a.arity a :=
  h.each a List.mem_cons_self

theorem NumberedAll.tail {fs : List Sql} (h : NumberedAll n (a :: fs)) :
    NumberedAll (fs.map arity).sum fs :=
  ⟨fun f hf => h.each f (List.mem_cons_of_mem a hf), rfl⟩

theorem NumberedAll.total_cons {fs : List Sql} (h : NumberedAll n (a :: fs)) :
    a.arity + (fs.map arity).sum = n := by
  rw [← List.sum_cons, ← List.map_cons, h.total]

theorem NumberedAll.joined {fs : List Sql} (hs : Stops s) (hfs : NumberedAll n fs) :
    Numbered n (joined s fs) := by
  induction fs generalizing n with
  | nil =>
    obtain rfl : 0 = n := hfs.total
    exact numbered_empty
  | cons f rest ih =>
    obtain rfl := hfs.total_cons
    cases rest with
    | nil => exact hfs.head
    | cons g rest => exact hfs.head.append_stop hs (ih hfs.tail)

theorem piecesArity_of_isEmpty {ps : List Piece} (hroom : ∀ k, Piece.room k ∈ ps → k = 0)
    (hempty : (Sql.mk ps).isEmpty = true) : piecesArity ps = 0 := by
  induction ps with
  | nil => rfl
  | cons p rest ih =>
    rw [isEmpty, List.all_cons, Bool.and_eq_true] at hempty
    have hrest := ih (fun k hk => hroom k (List.mem_cons_of_mem p hk)) hempty.2
    cases p with
    | text s => rw [piecesArity, hrest]; rfl
    | hole => exact absurd hempty.1 Bool.false_ne_true
    | room k => rw [piecesArity, hrest, Piece.arity, hroom k List.mem_cons_self]

/-- A numbered fragment without text has no hole. -/
theorem Numbered.eq_zero_of_isEmpty (h : Numbered n a) (hempty : a.isEmpty = true) : n = 0 := by
  rw [← h.arity]
  exact piecesArity_of_isEmpty h.roomless hempty

/-- A numbered fragment may get a heading, which is left out with a fragment without text. -/
theorem Numbered.headed (ha : Numbered n a) (hs : DollarFree s) :
    Numbered n (if a.isEmpty then empty else verbatim s ++ a) := by
  split
  · next hempty =>
    rw [ha.eq_zero_of_isEmpty hempty]
    exact numbered_empty
  · exact ha.text_append hs

/-- Fragments without text that take no parameters may be left out. -/
theorem sum_arity_nonEmpty {fs : List Sql} (h : ∀ f ∈ fs, f.isEmpty = true → f.arity = 0) :
    ((nonEmpty fs).map arity).sum = (fs.map arity).sum := by
  induction fs with
  | nil => rfl
  | cons f rest ih =>
    obtain ⟨hf, hrest⟩ := List.forall_mem_cons.1 h
    rw [List.map_cons, List.sum_cons, ← ih hrest, nonEmpty, List.filter_cons]
    cases hempty : f.isEmpty with
    | true =>
      rw [hf hempty, Nat.zero_add]
      rfl
    | false => rfl

theorem NumberedAll.nonEmpty {fs : List Sql} (hfs : NumberedAll n fs) :
    NumberedAll n (nonEmpty fs) := by
  refine ⟨fun f hf => hfs.each f (List.mem_of_mem_filter hf), ?_⟩
  rw [← hfs.total]
  exact sum_arity_nonEmpty fun f hf hempty => (hfs.each f hf).eq_zero_of_isEmpty hempty

/-! ## The written text -/

theorem filterMap_pieceTokens {ps : List Piece} (hroom : ∀ k, Piece.room k ∈ ps → k = 0)
    (taken : Nat) : (pieceTokens taken ps).filterMap Token.placeholder? =
      (List.range' (taken + 1) (piecesArity ps)).map placeholder := by
  induction ps generalizing taken with
  | nil => rfl
  | cons p rest ih =>
    have hrest := ih fun k hk => hroom k (List.mem_cons_of_mem p hk)
    cases p with
    | text s =>
      have hchars : (s.toList.map Token.char).filterMap Token.placeholder? = [] :=
        List.filterMap_eq_nil_iff.2 fun t ht => by
          obtain ⟨c, -, rfl⟩ := List.mem_map.1 ht
          rfl
      rw [pieceTokens, List.filterMap_append, hchars, hrest, piecesArity, Piece.arity,
        Nat.zero_add]
      rfl
    | hole =>
      have hhole : (Token.parameter (Nat.toDigits 10 (taken + 1))).placeholder? =
          some (placeholder (taken + 1)) := by
        simp [Token.placeholder?, placeholder, String.ofList_cons]
      rw [pieceTokens, List.filterMap_cons_some hhole, hrest, piecesArity, Piece.arity,
        Nat.add_comm 1, List.range'_succ, List.map_cons]
    | room k =>
      have hk : k = 0 := hroom k List.mem_cons_self
      rw [pieceTokens, hk, hrest, piecesArity, Piece.arity, Nat.zero_add]

/-- The placeholders among the tokens are the holes, numbered one after the other. -/
theorem Numbered.filterMap_tokens (h : Numbered n a) (taken : Nat) :
    (a.tokens taken).filterMap Token.placeholder? =
      (List.range' (taken + 1) n).map placeholder := by
  rw [← h.arity]
  exact filterMap_pieceTokens h.roomless taken

theorem Numbered.tokens_write (h : Numbered n a) (taken : Nat) :
    Token.tokens (a.write taken).toList = a.tokens taken := by
  rw [write_eq, String.toList_ofList, Token.tokens_text (h.readable taken)]

/-- The text behind `k` more parameters is the text renumbered. -/
theorem Numbered.renumber_write (h : Numbered n a) (k taken : Nat) :
    Token.renumber k (a.write taken) = a.write (taken + k) := by
  rw [Token.renumber, h.tokens_write, map_shift_tokens, ← write_eq]

theorem Numbered.placeholders_write (h : Numbered n a) (taken : Nat) :
    Token.placeholders (a.write taken) = (List.range' (taken + 1) n).map placeholder := by
  rw [Token.placeholders, h.tokens_write, h.filterMap_tokens]

/-- The texts behind `k` more parameters are the texts renumbered. -/
theorem NumberedAll.map_renumber_writeAll {fs : List Sql} (h : NumberedAll n fs) (k taken : Nat) :
    (writeAll taken fs).map (Token.renumber k) = writeAll (taken + k) fs := by
  induction fs generalizing n taken with
  | nil => rfl
  | cons f rest ih =>
    rw [writeAll, writeAll, List.map_cons, h.head.renumber_write, ih h.tail, Nat.add_right_comm]

/-- The placeholders of texts one after the other are the holes, numbered one after the other. -/
theorem NumberedAll.placeholders_writeAll {fs : List Sql} (h : NumberedAll n fs) (taken : Nat) :
    (writeAll taken fs).flatMap Token.placeholders =
      (List.range' (taken + 1) n).map placeholder := by
  induction fs generalizing n taken with
  | nil =>
    obtain rfl : 0 = n := h.total
    rfl
  | cons f rest ih =>
    rw [writeAll, List.flatMap_cons, h.head.placeholders_write, ih h.tail, ← List.map_append,
      Nat.add_right_comm, List.range'_append_1, h.total_cons]

/-- The tokens of the collapsed text. -/
theorem Numbered.tokens_collapse_write (h : Numbered n a) (taken : Nat) :
    Token.tokens (Text.collapse (a.write taken)).toList = Token.collapse (a.tokens taken) := by
  rw [write_eq, Token.tokens_collapse (h.readable taken)]

theorem Numbered.clear (h : Numbered n a) (taken : Nat) :
    Token.Clear (Text.collapse (a.write taken)) := by
  rw [Token.Clear, h.tokens_collapse_write]
  exact (h.readable taken).collapse

/-- The placeholders of the collapsed text are the holes, numbered one after the other. -/
theorem Numbered.placeholders (h : Numbered n a) (taken : Nat) :
    Token.placeholders (Text.collapse (a.write taken)) =
      (List.range' (taken + 1) n).map placeholder :=
  calc Token.placeholders (Text.collapse (a.write taken))
      = (Token.collapse (a.tokens taken)).filterMap Token.placeholder? := by
        rw [Token.placeholders, h.tokens_collapse_write]
    _ = (a.tokens taken).filterMap Token.placeholder? := Token.filterMap_placeholder?_collapse _
    _ = (List.range' (taken + 1) n).map placeholder := h.filterMap_tokens taken

/-- The collapsed text behind `k` more parameters is the collapsed text renumbered. -/
theorem Numbered.renumber_collapse_write (h : Numbered n a) (k taken : Nat) :
    Token.renumber k (Text.collapse (a.write taken)) = Text.collapse (a.write (taken + k)) :=
  calc Token.renumber k (Text.collapse (a.write taken))
      = String.ofList (((Token.collapse (a.tokens taken)).map (Token.shift k)).flatMap
          Token.text) := by
        rw [Token.renumber, h.tokens_collapse_write]
    _ = String.ofList ((Token.collapse (a.tokens (taken + k))).flatMap Token.text) := by
        rw [Token.map_shift_collapse, map_shift_tokens]
    _ = Text.collapse (a.write (taken + k)) := by
        rw [write_eq, Token.collapse_text (h.readable (taken + k))]

end ParamSql.Sql
