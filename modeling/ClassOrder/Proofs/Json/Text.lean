import ClassOrder.Json.Text

/-!
# How texts are written

Between its marks a text is written piece by piece. A piece is a character, which may stand for
itself or be escaped, or a code unit in hexadecimal digits. Two code units that form a surrogate
pair stand for one character. Reading collects the characters while the pieces come in, and a
leading surrogate waits for its partner; what is collected is what the pieces stand for.
-/
namespace ClassOrder.Json

/-! ## The grammar of texts -/

/-- What a piece of a text stands for. -/
inductive Piece where
  | character (c : Char)
  | unit (unit : Nat)

/-- The pieces at the front of a text, up to the closing mark, and the rest behind it. -/
inductive BeginsPieces : List Char → List Piece → List Char → Prop
  | closed {rest : List Char} : BeginsPieces (textMark :: rest) [] rest
  | plain {c : Char} {text rest : List Char} {pieces : List Piece} (notMark : c ≠ textMark)
      (notEscape : c ≠ '\\') (printable : 0x20 ≤ c.toNat) (others : BeginsPieces text pieces rest) :
      BeginsPieces (c :: text) (.character c :: pieces) rest
  | escaped {letter c : Char} {text rest : List Char} {pieces : List Piece}
      (stands : escaped? letter = some c) (others : BeginsPieces text pieces rest) :
      BeginsPieces ('\\' :: letter :: text) (.character c :: pieces) rest
  | numbered {w x y z : Char} {unit : Nat} {text rest : List Char} {pieces : List Piece}
      (denotes : codeUnit? w x y z = some unit) (others : BeginsPieces text pieces rest) :
      BeginsPieces ('\\' :: 'u' :: w :: x :: y :: z :: text) (.unit unit :: pieces) rest

/-- A code unit is a leading surrogate. -/
def IsLeading (unit : Nat) : Prop :=
  0xD800 ≤ unit ∧ unit < 0xDC00

/-- A code unit is a trailing surrogate. -/
def IsTrailing (unit : Nat) : Prop :=
  0xDC00 ≤ unit ∧ unit < 0xE000

/-- Whether a code unit is the first of a pair is decided by its bounds. -/
instance (unit : Nat) : Decidable (IsLeading unit) :=
  inferInstanceAs (Decidable (_ ∧ _))

/-- Whether a code unit is the second of a pair is decided by its bounds. -/
instance (unit : Nat) : Decidable (IsTrailing unit) :=
  inferInstanceAs (Decidable (_ ∧ _))

/-- The character that two surrogates stand for. -/
def paired (leading trailing : Nat) : Char :=
  Char.ofNat (0x10000 + (leading - 0xD800) * 0x400 + (trailing - 0xDC00))

/-- The character that a code unit stands for on its own. -/
def alone (unit : Nat) : Char :=
  if IsLeading unit ∨ IsTrailing unit then '\uFFFD' else Char.ofNat unit

/-- The characters that pieces stand for. -/
def charactersOf : List Piece → List Char
  | [] => []
  | .character c :: rest => c :: charactersOf rest
  | .unit leading :: .unit trailing :: rest =>
    if IsLeading leading ∧ IsTrailing trailing then paired leading trailing :: charactersOf rest
    else alone leading :: charactersOf (.unit trailing :: rest)
  | .unit unit :: rest => alone unit :: charactersOf rest

variable {leading : Option Nat} {unit : Nat} {pieces : List Piece}
  {read text rest opening inside : List Char}

/-- A unit that is not completed stands for a character of its own. -/
theorem charactersOf_alone (incomplete : ∀ trailing more, pieces = .unit trailing :: more →
    ¬ (IsLeading unit ∧ IsTrailing trailing)) :
    charactersOf (.unit unit :: pieces) = alone unit :: charactersOf pieces := by
  cases pieces with
  | nil => rfl
  | cons piece more =>
    cases piece with
    | character c => rfl
    | unit trailing => rw [charactersOf, if_neg (incomplete trailing more rfl)]

/-! ## Collecting the characters -/

/-- The piece that waits for its partner. -/
def waiting : Option Nat → List Piece
  | none => []
  | some leading => [.unit leading]

/-- Only a leading surrogate waits. -/
def Waits (leading : Option Nat) : Prop :=
  ∀ unit, leading = some unit → IsLeading unit

/-- Nothing waits in front of a text. -/
theorem waits_none : Waits none :=
  nofun

/-- When no partner comes, the one that waits is settled. -/
theorem charactersOf_settle (waits : Waits leading) (read : List Char) (pieces : List Piece)
    (noPartner : ∀ trailing more, pieces = .unit trailing :: more → ¬ IsTrailing trailing) :
    (settle leading read).reverse ++ charactersOf pieces =
      read.reverse ++ charactersOf (waiting leading ++ pieces) := by
  cases leading with
  | none => rfl
  | some first =>
    have marked : alone first = '\uFFFD' := if_pos (.inl (waits first rfl))
    have settled : charactersOf (.unit first :: pieces) = alone first :: charactersOf pieces :=
      charactersOf_alone fun trailing more same pair => noPartner trailing more same pair.2
    rw [waiting, List.singleton_append, settled, marked]
    simp [settle]

/-- Adding a unit to what has been read accounts for the unit. -/
theorem charactersOf_addUnit (waits : Waits leading) (read : List Char) (unit : Nat)
    (pieces : List Piece) :
    Waits (addUnit leading read unit).1 ∧
      (addUnit leading read unit).2.reverse ++
          charactersOf (waiting (addUnit leading read unit).1 ++ pieces) =
        read.reverse ++ charactersOf (waiting leading ++ .unit unit :: pieces) := by
  have noTrailing (different : ¬ IsTrailing unit) : ∀ trailing more,
      Piece.unit unit :: pieces = .unit trailing :: more → ¬ IsTrailing trailing := by
    rintro _ _ ⟨⟩
    exact different
  unfold addUnit
  split
  · rename_i leads
    have notTrailing : ¬ IsTrailing unit := fun trails => absurd leads.2 (Nat.not_lt.mpr trails.1)
    refine ⟨fun _ same => Option.some.inj same ▸ leads, ?_⟩
    exact charactersOf_settle waits read _ (noTrailing notTrailing)
  · rename_i notLeading
    split
    · rename_i trails
      cases leading with
      | none =>
        have marked : alone unit = '\uFFFD' := if_pos (.inr trails)
        refine ⟨waits_none, ?_⟩
        rw [waiting, List.nil_append, List.nil_append,
          charactersOf_alone fun _ _ _ pair => notLeading pair.1, marked]
        simp
      | some first =>
        refine ⟨waits_none, ?_⟩
        rw [waiting, waiting, List.nil_append, List.singleton_append, charactersOf,
          if_pos ⟨waits first rfl, trails⟩]
        simp [paired]
    · rename_i notTrailing
      have itself : alone unit = Char.ofNat unit := if_neg (not_or.mpr ⟨notLeading, notTrailing⟩)
      refine ⟨waits_none, ?_⟩
      rw [← charactersOf_settle waits read _ (noTrailing notTrailing),
        charactersOf_alone fun _ _ _ pair => notLeading pair.1, itself]
      simp [waiting]

/-- A character settles the unit that waits. -/
theorem charactersOf_character (waits : Waits leading) (read : List Char) (c : Char)
    (pieces : List Piece) :
    (c :: settle leading read).reverse ++ charactersOf pieces =
      read.reverse ++ charactersOf (waiting leading ++ .character c :: pieces) := by
  rw [← charactersOf_settle waits read (.character c :: pieces) nofun, charactersOf]
  simp

/-! ## One step of reading -/

/-- At the closing mark the text is complete, with whatever was waiting in it. -/
theorem takeTextFrom_closed (opening read rest : List Char) (leading : Option Nat) :
    takeTextFrom opening leading read (textMark :: rest) =
      .ok ((settle leading read).reverse, rest) := by
  rw [takeTextFrom.eq_def]
  exact if_pos rfl

/-- A plain character is read as it stands. -/
theorem takeTextFrom_plain {c : Char} (notMark : c ≠ textMark) (notEscape : c ≠ '\\')
    (printable : 0x20 ≤ c.toNat) :
    takeTextFrom opening leading read (c :: text) =
      takeTextFrom opening none (c :: settle leading read) text := by
  rw [takeTextFrom.eq_def]
  simp [notMark, notEscape, Nat.not_lt.mpr printable]

/-- A letter behind a backslash is read as the character that it stands for. -/
theorem takeTextFrom_escaped {letter c : Char} (stands : escaped? letter = some c) :
    takeTextFrom opening leading read ('\\' :: letter :: text) =
      takeTextFrom opening none (c :: settle leading read) text := by
  have notU : letter ≠ 'u' := by
    rintro rfl
    cases stands
  rw [takeTextFrom.eq_def]
  simp [textMark, notU, stands]

/-- Four digits behind a backslash are read as a code unit, which may wait for the second of a
pair. -/
theorem takeTextFrom_numbered {w x y z : Char} (denotes : codeUnit? w x y z = some unit)
    (goesOn : text ≠ []) :
    takeTextFrom opening leading read ('\\' :: 'u' :: w :: x :: y :: z :: text) =
      takeTextFrom opening (addUnit leading read unit).1 (addUnit leading read unit).2 text := by
  rw [takeTextFrom.eq_def]
  simp [textMark, denotes, goesOn]

/-! ## Reading a whole text -/

/-- There is a closing mark at least. -/
theorem BeginsPieces.ne_nil (begins : BeginsPieces text pieces rest) : text ≠ [] := by
  cases begins <;> exact List.cons_ne_nil _ _

/-- Pieces at the front of a text are read up to the closing mark. -/
theorem BeginsPieces.takeTextFrom_eq (begins : BeginsPieces text pieces rest) (opening : List Char)
    (waits : Waits leading) (read : List Char) :
    takeTextFrom opening leading read text =
      .ok (read.reverse ++ charactersOf (waiting leading ++ pieces), rest) := by
  induction begins generalizing leading read with
  | closed =>
    rw [← charactersOf_settle waits read [] nofun, takeTextFrom_closed, charactersOf,
      List.append_nil]
  | plain notMark notEscape printable others inductionHypothesis =>
    rw [takeTextFrom_plain notMark notEscape printable, inductionHypothesis waits_none,
      ← charactersOf_character waits]
    rfl
  | escaped stands others inductionHypothesis =>
    rw [takeTextFrom_escaped stands, inductionHypothesis waits_none, ← charactersOf_character waits]
    rfl
  | numbered denotes others inductionHypothesis =>
    rename_i unit _ _ pieces
    obtain ⟨stillWaits, added⟩ := charactersOf_addUnit waits read unit pieces
    rw [takeTextFrom_numbered denotes others.ne_nil, inductionHypothesis stillWaits, added]

/-- What is read are pieces up to the closing mark. -/
theorem takeTextFrom_sound (taken : takeTextFrom opening leading read text = .ok (inside, rest)) :
    ∃ pieces, BeginsPieces text pieces rest := by
  fun_induction takeTextFrom opening leading read text with
  | case2 leading read c text closing =>
    obtain ⟨rfl, rfl⟩ := Prod.mk.inj (Except.ok.inj taken)
    obtain rfl := beq_iff_eq.mp closing
    exact ⟨_, .closed⟩
  | case5 leading read c notMark escape w x y z more unit denotes goesOn added
      inductionHypothesis =>
    obtain ⟨pieces, others⟩ := inductionHypothesis taken
    obtain rfl := beq_iff_eq.mp escape
    exact ⟨_, .numbered denotes others⟩
  | case8 leading read c notMark escape letter more _ notU meant stands inductionHypothesis =>
    obtain ⟨pieces, others⟩ := inductionHypothesis taken
    obtain rfl := beq_iff_eq.mp escape
    exact ⟨_, .escaped stands others⟩
  | case11 leading read c text notMark notEscape printable inductionHypothesis =>
    obtain ⟨pieces, others⟩ := inductionHypothesis taken
    exact ⟨_, .plain (by simpa using notMark) (by simpa using notEscape) (Nat.not_lt.mp printable)
      others⟩
  | _ => cases taken

/-- A text is read exactly when it is written in pieces up to a closing mark, and it is read as
the characters that they stand for. -/
theorem takeText_eq_ok_iff :
    takeText text = .ok (inside, rest) ↔
      ∃ pieces, BeginsPieces text pieces rest ∧ inside = charactersOf pieces := by
  have reads {pieces : List Piece} (begins : BeginsPieces text pieces rest) :
      takeText text = .ok (charactersOf pieces, rest) :=
    begins.takeTextFrom_eq (textMark :: text) waits_none []
  constructor
  · intro taken
    obtain ⟨pieces, begins⟩ := takeTextFrom_sound taken
    have same := (reads begins).symm.trans taken
    exact ⟨pieces, begins, (Prod.mk.inj (Except.ok.inj same)).1.symm⟩
  · rintro ⟨pieces, begins, rfl⟩
    exact reads begins

end ClassOrder.Json
