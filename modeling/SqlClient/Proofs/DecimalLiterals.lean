import Mathlib.Data.List.TakeWhile
import SqlClient.Proofs.DecimalText
import SqlClient.Proofs.Rescaling

namespace SqlClient

open Text

attribute [local instance (high)] instPowNat

/-- An integer literal, or one that a point divides before one of its later digits: it denotes the number
of the literal without the point, at as many places as there are digits after the point. -/
inductive DecimalLiteral : List Char → Int → Nat → Prop where
  | whole {cs : List Char} {m : Int} : IntegerLiteral cs m → DecimalLiteral cs m 0
  | pointed {front fraction : List Char} {n m : Int} : IntegerLiteral front n → IsNumeral fraction →
    IntegerLiteral (front ++ fraction) m → DecimalLiteral (front ++ '.' :: fraction) m fraction.length

theorem natAbs_withSign (negative : Bool) (n : Nat) : (withSign negative n).natAbs = n := by
  cases negative
  · rfl
  · exact Int.natAbs_neg n

theorem IntegerLiteral.natAbs {cs : List Char} {m : Int} (h : IntegerLiteral cs m) :
    m.natAbs = ofDigits (takeSign cs).2 ∧ m = withSign (takeSign cs).1 m.natAbs := by
  obtain ⟨-, rfl⟩ := integerLiteral_iff.mp h
  rw [natAbs_withSign]
  exact ⟨rfl, rfl⟩

theorem IntegerLiteral.ne_nil {cs : List Char} {m : Int} (h : IntegerLiteral cs m) : cs ≠ [] := by
  rintro rfl
  exact (integerLiteral_iff.mp h).1.1 rfl

def Decimal.HasRoom (m : Int) (scale : Nat) : Prop :=
  m.natAbs < 2 ^ (96 : Nat) ∧ scale ≤ maxScale

instance (m : Int) (scale : Nat) : Decidable (Decimal.HasRoom m scale) :=
  inferInstanceAs (Decidable (_ ∧ _))

theorem fitsScale_of_hasRoom {m : Int} {scale : Nat} (h : Decimal.HasRoom m scale) :
    FitsScale scale (m / 10 ^ scale) := by
  have pos : (10 : ℚ) ^ scale ≠ 0 := by positivity
  exact ⟨m, div_mul_cancel₀ _ pos, h.1⟩

namespace Decimal

variable {n : Numeral} {ds whole fraction cs rest : List Char} {m : Int} {scale : Nat}

def Numeral.Takes (n : Numeral) (ds : List Char) : Prop :=
  (n.pointSeen = true → n.scale + ds.length ≤ maxScale) ∧
    ds.foldl (fun m c => m * 10 + (digit? c).getD 0) n.mantissa < 2 ^ (96 : Nat)

theorem Numeral.takes_cons {c : Char} {d : Nat} (hd : digit? c = some d) :
    n.Takes (c :: ds) ↔ (n.push d).Takes ds := by
  simp only [Takes, push, List.foldl_cons, hd, Option.getD_some, List.length_cons]
  refine and_congr_left fun _ => forall_congr' fun point => ?_
  rw [if_pos point]
  omega

theorem Numeral.read_refused (digits : ds.all isDigit = true) (fits : n.Takes [])
    (refused : ¬n.Takes ds) : n.read .refuse (ds ++ rest) = none := by
  -- on the digits; the first one without room ends the reading
  induction ds generalizing n with
  | nil => exact absurd fits refused
  | cons c ds ih =>
    obtain ⟨digit, digits⟩ := Bool.and_eq_true_iff.mp digits
    obtain ⟨d, hd⟩ := Option.isSome_iff_exists.mp digit
    simp only [List.cons_append, read, hd]
    split
    · rfl
    next notFull =>
      split
      next inside =>
        refine ih digits ⟨fun point => ?_, inside⟩ (mt (takes_cons hd).mpr refused)
        have point : n.pointSeen = true := point
        have places : ¬maxScale ≤ n.scale := by
          simpa only [full, point, Bool.true_and, decide_eq_true_eq] using notFull
        simp only [push, point, if_true, List.length_nil]
        omega
      · split <;> rfl

theorem Numeral.read_whole (h : IsNumeral whole) (rest : List Char) :
    Numeral.start.read .refuse (whole ++ rest) =
      if ofDigits whole < 2 ^ (96 : Nat) then
        (⟨ofDigits whole, 0, false, true⟩ : Numeral).read .refuse rest
      else none := by
  split
  next inside =>
    rw [← pushAll_start h.1]
    exact read_digits h.2 (fun point => nomatch point) inside
  next outside =>
    exact read_refused h.2 ⟨fun point => (nomatch point), by decide⟩ fun takes => outside takes.2

theorem Numeral.read_fraction {m v : Nat} (hm : m < 2 ^ (96 : Nat)) (h : fraction.all isDigit = true)
    (value : fraction.foldl (fun m c => m * 10 + (digit? c).getD 0) m = v) :
    (⟨m, 0, true, true⟩ : Numeral).read .refuse fraction =
      if v < 2 ^ (96 : Nat) ∧ fraction.length ≤ maxScale then some (v, fraction.length) else none := by
  subst value
  split
  next inside =>
    have room : 0 + fraction.length ≤ maxScale := by rw [Nat.zero_add]; exact inside.2
    have digits : (⟨m, 0, true, true⟩ : Numeral).read .refuse (fraction ++ []) =
        ((⟨m, 0, true, true⟩ : Numeral).pushAll fraction).read .refuse [] :=
      read_digits h (fun _ => room) inside.1
    rw [List.append_nil, pushAll_fraction, Nat.zero_add] at digits
    exact digits
  next outside =>
    have digits : (⟨m, 0, true, true⟩ : Numeral).read .refuse (fraction ++ []) = none := by
      refine read_refused h ⟨fun _ => Nat.zero_le _, hm⟩ fun takes => outside ⟨takes.2, ?_⟩
      have room := takes.1 rfl
      rwa [Nat.zero_add] at room
    rwa [List.append_nil] at digits

theorem read_of_literal (h : DecimalLiteral cs m scale) :
    Numeral.start.read .refuse (takeSign cs).2 =
      if HasRoom m scale then some (m.natAbs, scale) else none := by
  cases h with
  | whole literal =>
    have whole := Numeral.read_whole (integerLiteral_iff.mp literal).1 []
    rw [List.append_nil, ← literal.natAbs.1] at whole
    simp only [whole, HasRoom, Nat.zero_le, and_true]
    rfl
  | @pointed front fraction n m literal numeral joined =>
    obtain ⟨whole, -⟩ := integerLiteral_iff.mp literal
    have mantissa : m.natAbs = ofDigits ((takeSign front).2 ++ fraction) := by
      rw [joined.natAbs.1, takeSign_append literal.ne_nil]
    have grows : ofDigits (takeSign front).2 ≤ m.natAbs :=
      mantissa ▸ ofDigits_le_of_prefix (List.prefix_append ..)
    rw [takeSign_append literal.ne_nil, Numeral.read_whole whole]
    split
    next inside =>
      rw [ofDigits, List.foldl_append] at mantissa
      rw [Numeral.read_point, Numeral.read_fraction inside numeral.2 mantissa.symm]
      rfl
    next outside => rw [if_neg fun room : HasRoom m _ => outside (Nat.lt_of_le_of_lt grows room.1)]

def ofLiteral (m : Int) (scale : Nat) (room : HasRoom m scale) : Decimal :=
  ⟨m < 0, m.natAbs, scale, room.1⟩

theorem toRat_ofLiteral (room : HasRoom m scale) : (ofLiteral m scale room).toRat = m / 10 ^ scale := by
  have signed : (ofLiteral m scale room).signed = m := by
    simp only [Decimal.signed, ofLiteral, decide_eq_true_eq]
    omega
  rw [toRat, signed]
  rfl

theorem sign_of_literal (h : DecimalLiteral cs m scale) :
    m = withSign (takeSign cs).1 m.natAbs := by
  cases h with
  | whole literal => exact literal.natAbs.2
  | @pointed front _ _ _ literal _ joined =>
    have sign := joined.natAbs.2
    rw [takeSign_append literal.ne_nil] at sign ⊢
    exact sign

theorem readPlain?_of_literal (h : DecimalLiteral cs m scale) :
    readPlain? .refuse cs = if room : HasRoom m scale then some (ofLiteral m scale room) else none := by
  have negative : ((takeSign cs).1 && m.natAbs != 0) = decide (m < 0) := by
    have sign := sign_of_literal h
    cases minus : (takeSign cs).1 with
    | false =>
      rw [minus] at sign
      have natural : m = m.natAbs := sign
      rw [Bool.false_and, eq_comm, decide_eq_false_iff_not]
      omega
    | true =>
      rw [minus] at sign
      have negated : m = -m.natAbs := sign
      rw [Bool.true_and, Bool.eq_iff_iff, bne_iff_ne, decide_eq_true_eq]
      omega
  rw [readPlain?]
  simp only [read_of_literal h, Option.bind_eq_bind]
  split
  next room => simp only [Option.bind_some, ofParts?, dif_pos room.1, negative, ofLiteral]
  next => rfl

theorem isExponentMark_of_isDigit {c : Char} (h : isDigit c = true) : isExponentMark c = false := by
  rw [isExponentMark, Bool.or_eq_false_iff, decide_eq_false_iff_not, decide_eq_false_iff_not]
  constructor <;> rintro rfl <;> exact absurd h (by decide)

theorem unmarked_of_digits (h : ds.all isDigit = true) : ∀ c ∈ ds, isExponentMark c = false :=
  fun c hc => isExponentMark_of_isDigit (List.all_eq_true.mp h c hc)

theorem unmarked_of_literal (h : DecimalLiteral cs m scale) : ∀ c ∈ cs, isExponentMark c = false := by
  have integer {cs : List Char} {m : Int} (h : IntegerLiteral cs m) :
      ∀ c ∈ cs, isExponentMark c = false := by
    cases h with
    | unsigned numeral => exact unmarked_of_digits numeral.2
    | plus numeral => exact List.forall_mem_cons.mpr ⟨by decide, unmarked_of_digits numeral.2⟩
    | minus numeral => exact List.forall_mem_cons.mpr ⟨by decide, unmarked_of_digits numeral.2⟩
  cases h with
  | whole literal => exact integer literal
  | pointed literal numeral =>
    exact List.forall_mem_append.mpr ⟨integer literal,
      List.forall_mem_cons.mpr ⟨by decide, unmarked_of_digits numeral.2⟩⟩

theorem readScientific?_of_literal (h : DecimalLiteral cs m scale) (excess : Excess) :
    readScientific? excess cs = none := by
  have base : cs.takeWhile (fun c => !isExponentMark c) = cs :=
    List.takeWhile_eq_self_iff.mpr fun c hc => by rw [unmarked_of_literal h c hc]; rfl
  simp only [readScientific?, base, List.drop_length]

theorem read?_of_literal (h : DecimalLiteral cs m scale) :
    read? .refuse cs = if room : HasRoom m scale then some (ofLiteral m scale room) else none := by
  rw [read?, readPlain?_of_literal h]
  split
  · rfl
  · exact readScientific?_of_literal h .refuse

end Decimal

namespace WireValue

variable {ctx : ConversionContext} {s : String} {m : Int} {scale : Nat}

theorem read_character_decimal (unscaled : ctx.scale = none) (s : String) :
    (character s).read ctx .decimal = (decimalLiteral s).map HostValue.decimal := by
  have read : (character s).read ctx .decimal =
      decimalLiteral s >>= fun d => (atScale ctx d).map HostValue.decimal := rfl
  simp only [read, atScale_unscaled unscaled]
  cases decimalLiteral s <;> rfl

/-- A decimal literal is read exactly if its mantissa and its places have room. One that has no room is
malformed, and so is in particular every literal of a number without a decimal form. -/
theorem read_decimal_literal (unscaled : ctx.scale = none)
    (literal : DecimalLiteral (trim s.toList) m scale) :
    (Decimal.HasRoom m scale →
      ∃ d, (character s).read ctx .decimal = .ok (.decimal d) ∧ d.toRat = m / 10 ^ scale ∧
        d.scale = scale) ∧
    (¬Decimal.HasRoom m scale →
      (character s).read ctx .decimal = .error (.malformedLiteral .decimal s .unreadable)) ∧
    ((∀ k ≤ Decimal.maxScale, ¬FitsScale k (m / 10 ^ scale)) →
      (character s).read ctx .decimal = .error (.malformedLiteral .decimal s .unreadable)) := by
  have refused (noRoom : ¬Decimal.HasRoom m scale) :
      (character s).read ctx .decimal = .error (.malformedLiteral .decimal s .unreadable) := by
    rw [read_character_decimal unscaled, decimalLiteral, Decimal.read?_of_literal literal, dif_neg noRoom]
    rfl
  refine ⟨fun room => ?_, refused, fun noForm => refused fun room => ?_⟩
  · refine ⟨.ofLiteral m scale room, ?_, Decimal.toRat_ofLiteral room, rfl⟩
    rw [read_character_decimal unscaled, decimalLiteral, Decimal.read?_of_literal literal, dif_pos room]
    rfl
  · exact noForm scale room.2 (fitsScale_of_hasRoom room)

theorem read_decimal_literal_largest :
    ∃ d, (character "-7.9228162514264337593543950335").read default .decimal = .ok (.decimal d) ∧
      d.toRat = (-79228162514264337593543950335 : Int) / 10 ^ 28 ∧ d.scale = 28 := by
  have literal : DecimalLiteral (trim "-7.9228162514264337593543950335".toList)
      (-79228162514264337593543950335) 28 := by
    have text : trim "-7.9228162514264337593543950335".toList =
        "-7".toList ++ '.' :: "9228162514264337593543950335".toList := by decide
    rw [text]
    exact .pointed (.minus ⟨by decide, by decide⟩) ⟨by decide, by decide⟩
      (integerLiteral_iff.mpr ⟨⟨by decide, by decide⟩, by decide⟩)
  exact (read_decimal_literal rfl literal).1 (by decide)

theorem read_decimal_literal_beyond :
    ¬∀ (ctx : ConversionContext) (s : String) (m : Int) (scale : Nat), ctx.scale = none →
      DecimalLiteral (trim s.toList) m scale →
      (∀ k ≤ Decimal.maxScale, ¬FitsScale k (m / 10 ^ scale)) →
        ∃ fault, (character s).read ctx .decimal = .error (.outOfRange .decimal fault) := by
  intro law
  have literal : DecimalLiteral (trim "79228162514264337593543950336".toList)
      79228162514264337593543950336 0 :=
    .whole (integerLiteral_iff.mpr ⟨⟨by decide, by decide⟩, by decide⟩)
  have noForm : ∀ k ≤ Decimal.maxScale, ¬FitsScale k ((79228162514264337593543950336 : Int) / 10 ^ 0) := by
    rintro k - ⟨n, same, small⟩
    have whole : n = (79228162514264337593543950336 * 10 ^ k : ℕ) := by
      rw [pow_zero, div_one] at same
      exact_mod_cast same.symm
    have grows : 79228162514264337593543950336 ≤ 79228162514264337593543950336 * 10 ^ k :=
      Nat.le_mul_of_pos_right _ (Nat.pow_pos (by decide))
    omega
  have fails : (character "79228162514264337593543950336").read default .decimal =
      .error (.malformedLiteral .decimal "79228162514264337593543950336" .unreadable) := by rfl
  obtain ⟨fault, same⟩ := law default _ _ _ rfl literal noForm
  cases fails.symm.trans same

end WireValue

end SqlClient
