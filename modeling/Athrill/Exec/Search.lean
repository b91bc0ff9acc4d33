import Mathlib.Data.List.Find
import Athrill.Dec.Extended
import Athrill.Exec.Bit
import Athrill.Exec.Compute

/-!
# Bit search

`SCH0L`, `SCH1L`, `SCH0R` and `SCH1R` look for the first clear or set bit from
one end of a register.  The carry flag should tell a match at the last bit; the
executor sets it in any case.

* `SearchInstr.FirstMatch`: the searched position.
* `SearchCorrect`, `SearchRelated`: the four instructions, alone and together.
* `search_exact`: when an instruction is right.
-/

namespace Athrill

open TargetCore Routine

namespace Exec

variable {D : Type}

/-! ## The search -/

inductive SearchInstr where
  | sch0l | sch1l | sch0r | sch1r

namespace SearchInstr

def exec (code : OpCode) : SearchInstr → Exec D Unit
  | sch0l => opExecSch0l9 (opDecode9 code)
  | sch1l => opExecSch1l9 (opDecode9 code)
  | sch0r => opExecSch0r9 (opDecode9 code)
  | sch1r => opExecSch1r9 (opDecode9 code)

/-- The bit that is searched. -/
def wanted : SearchInstr → Bool
  | sch0l | sch0r => false
  | sch1l | sch1r => true

def isLeft : SearchInstr → Bool
  | sch0l | sch1l => true
  | sch0r | sch1r => false

/-- The search for the other bit, from the same end. -/
def opposite : SearchInstr → SearchInstr
  | sch0l => sch1l
  | sch1l => sch0l
  | sch0r => sch1r
  | sch1r => sch0r

/-- The search for the same bit, from the other end. -/
def mirror : SearchInstr → SearchInstr
  | sch0l => sch0r
  | sch1l => sch1r
  | sch0r => sch0l
  | sch1r => sch1l

/-- The bit of `value` that is searched after `k` others. -/
def bitAt (value : Word) (k : Nat) (i : SearchInstr) : Bool :=
  value.getLsbD (if i.isLeft then 31 - k else k)

/-- The search matches after `k` bits that do not match. -/
def FirstMatch (value : Word) (k : Nat) (i : SearchInstr) : Prop :=
  k < 32 ∧ i.bitAt value k = i.wanted ∧ ∀ j < k, i.bitAt value j ≠ i.wanted

/-- The one value whose last bit is the first to match. -/
def lastOnly : SearchInstr → Word
  | sch0l => 0xFFFFFFFE
  | sch1l => 0x00000001
  | sch0r => 0x7FFFFFFF
  | sch1r => 0x80000000

/-- The search as the executor makes it. -/
def find (value : Word) (i : SearchInstr) : Option Nat :=
  (List.range 32).find? fun k => i.bitAt value k == i.wanted

section Find

variable (value : Word) (i : SearchInstr)

theorem find_eq_some_iff {k : Nat} : i.find value = some k ↔ i.FirstMatch value k := by
  unfold find FirstMatch
  rw [List.find?_range_eq_some, List.mem_range]
  constructor
  · rintro ⟨hmatch, hk, hbefore⟩
    refine ⟨hk, by simpa using hmatch, ?_⟩
    intro j hj
    simpa using hbefore j hj
  · rintro ⟨hk, hmatch, hbefore⟩
    refine ⟨by simpa using hmatch, hk, ?_⟩
    intro j hj
    simpa using hbefore j hj

theorem find_eq_none_iff : i.find value = none ↔ ∀ k, ¬ i.FirstMatch value k := by
  rw [Option.eq_none_iff_forall_ne_some]
  exact forall_congr' fun k => not_congr (i.find_eq_some_iff value)

/-- What `bitAt` reads determines the search. -/
theorem find_congr {value' : Word} {i' : SearchInstr}
    (h : ∀ k, k < 32 → (i'.bitAt value' k == i'.wanted) = (i.bitAt value k == i.wanted)) :
    i'.find value' = i.find value := by
  unfold find
  refine List.find?_congr ?_
  intro k hk
  exact h k (List.mem_range.mp hk)

theorem find_opposite : i.opposite.find (~~~value) = i.find value := by
  refine i.find_congr value ?_
  intro k hk
  have hpos : (if i.isLeft then 31 - k else k) < 32 := by
    split_ifs <;> omega
  have hleft : i.opposite.isLeft = i.isLeft := by
    cases i <;> rfl
  have hwanted : i.opposite.wanted = !i.wanted := by
    cases i <;> rfl
  unfold bitAt
  rw [hleft, hwanted, BitVec.getLsbD_not, decide_eq_true hpos, Bool.true_and]
  cases value.getLsbD (if i.isLeft then 31 - k else k) <;> cases i.wanted <;> rfl

theorem find_mirror : i.mirror.find value.reverse = i.find value := by
  refine i.find_congr value ?_
  intro k hk
  have hleft : i.mirror.isLeft = !i.isLeft := by
    cases i <;> rfl
  have hwanted : i.mirror.wanted = i.wanted := by
    cases i <;> rfl
  have hbit : i.mirror.bitAt value.reverse k = i.bitAt value k := by
    unfold bitAt
    rw [hleft, BitVec.getLsbD_reverse, BitVec.getMsbD_eq_getLsbD]
    cases i.isLeft with
    | false =>
      have hback : 31 - (31 - k) = k := by omega
      have hin : 31 - k < 32 := by omega
      simp [hback, hin]
    | true =>
      simp [hk]
  rw [hbit, hwanted]

/-- The searched bits make up the value. -/
theorem eq_of_bitAt {value value' : Word}
    (h : ∀ k, k < 32 → i.bitAt value k = i.bitAt value' k) : value = value' := by
  apply BitVec.eq_of_getLsbD_eq
  intro n hn
  unfold bitAt at h
  cases hleft : i.isLeft with
  | false => simpa [hleft] using h n hn
  | true =>
    have hback : 31 - (31 - n) = n := by omega
    simpa [hleft, hback] using h (31 - n) (by omega)

theorem bitAt_lastOnly {k : Nat} (hk : k < 32) :
    i.bitAt i.lastOnly k = if k = 31 then i.wanted else !i.wanted := by
  have hall : ∀ j : Fin 32,
      i.bitAt i.lastOnly j.val = if j.val = 31 then i.wanted else !i.wanted := by
    cases i <;> decide
  exact hall ⟨k, hk⟩

theorem firstMatch_last_iff : i.FirstMatch value 31 ↔ value = i.lastOnly := by
  constructor
  · rintro ⟨-, hmatch, hbefore⟩
    refine i.eq_of_bitAt ?_
    intro k hk
    rw [i.bitAt_lastOnly hk]
    by_cases hlast : k = 31
    · rw [if_pos hlast, hlast, hmatch]
    · rw [if_neg hlast]
      exact Bool.eq_not.mpr (hbefore k (by omega))
  · rintro rfl
    refine ⟨by omega, i.bitAt_lastOnly (by omega), ?_⟩
    intro j hj
    rw [i.bitAt_lastOnly (by omega), if_neg (by omega)]
    exact Bool.not_ne_self _

end Find

end SearchInstr

/-! ## Runs -/

section Run

variable (i : SearchInstr) (code : OpCode) (s : CpuState D)

/-- The word that the executor writes. -/
def foundWord (found : Option Nat) : Word :=
  match found with
  | some count => BitVec.ofNat 32 count + 1
  | none => 0

theorem toNat_foundWord {k : Nat} (hk : k < 32) : (foundWord (some k)).toNat = k + 1 := by
  show (BitVec.ofNat 32 k + 1).toNat = k + 1
  rw [BitVec.toNat_add, BitVec.toNat_ofNat]
  show (k % 2 ^ 32 + 1) % 2 ^ 32 = k + 1
  omega

/-- The flags that a search leaves. -/
def searchFlags (found : Option Nat) : TargetCore → TargetCore :=
  writeFlags [(pswCY, true), (pswOV, false), (pswS, false), (pswZ, found.isNone)]

theorem run_search :
    ∃ h3 : (bits code 31 27 : HalfWord).toNat < 32, (i.exec code).run s =
      (.ok (), after s
        (Function.update s.cpu.r ⟨_, h3⟩ (foundWord (i.find (s.cpu.reg (bits code 15 11)))))
        (searchFlags (i.find (s.cpu.reg (bits code 15 11)))) 4) := by
  have h2 : (bits code 15 11 : HalfWord).toNat < 32 := toNat_bits_lt code 15 11
  have h3 : (bits code 31 27 : HalfWord).toNat < 32 := toNat_bits_lt code 31 27
  have hexec : i.exec (D := D) code = opExecSchlr9 i.wanted i.isLeft (opDecode9 code) := by
    cases i <;> rfl
  refine ⟨h3, ?_⟩
  rw [hexec, type9_opDecode9]
  unfold opExecSchlr9
  rw [run_bind, run_getR h2, andThen_ok, ← reg_of_lt h2]
  show (do
    setCY true
    setOV false
    setS false
    setZ (i.find (s.cpu.reg (bits code 15 11))).isNone
    setR (bits code 31 27 : HalfWord).toNat (foundWord (i.find (s.cpu.reg (bits code 15 11))))
    addPc 4 : Exec D Unit).run s = _
  unfold setCY setOV setS setZ
  rw [run_bind, run_putPsw, andThen_ok, run_bind, run_putPsw, andThen_ok, run_bind, run_putPsw,
    andThen_ok, run_bind, run_putPsw, andThen_ok]
  exact run_setR_after s [(pswCY, true), (pswOV, false), (pswS, false),
    (pswZ, (i.find (s.cpu.reg (bits code 15 11))).isNone)] h3 _ 4

end Run

/-! ## Correctness -/

/-- What a search promises of the state `s'` it leaves. -/
structure SearchCorrect (i : SearchInstr) (code : OpCode) (s s' : CpuState D) : Prop where
  position : ∀ k, i.FirstMatch (s.cpu.reg (bits code 15 11)) k →
    (s'.cpu.reg (bits code 31 27)).toNat = k + 1
  absent : (∀ k, ¬ i.FirstMatch (s.cpu.reg (bits code 15 11)) k) →
    s'.cpu.reg (bits code 31 27) = 0
  others : ∀ n, n ≠ bits code 31 27 → s'.cpu.reg n = s.cpu.reg n
  zero : s'.cpu.issetPsw pswZ = true ↔ ∀ k, ¬ i.FirstMatch (s.cpu.reg (bits code 15 11)) k
  carry : s'.cpu.issetPsw pswCY = true ↔ i.FirstMatch (s.cpu.reg (bits code 15 11)) 31

/-- Two searches wrote the same position and left the same flags. -/
structure SameSearch (code : OpCode) (s' t' : CpuState D) : Prop where
  result : t'.cpu.reg (bits code 31 27) = s'.cpu.reg (bits code 31 27)
  flags : ∀ bit ∈ [pswZ, pswS, pswOV, pswCY], t'.cpu.issetPsw bit = s'.cpu.issetPsw bit

/-- The search for the other bit in the complement, and the search from the
other end in the reversed word, end like the search from `s` to `s'`. -/
structure SearchRelated (i : SearchInstr) (code : OpCode) (s s' : CpuState D) : Prop where
  complement : ∀ t t' : CpuState D,
    t.cpu.reg (bits code 15 11) = ~~~(s.cpu.reg (bits code 15 11)) →
    (i.opposite.exec code).run t = (.ok (), t') → SameSearch code s' t'
  reversed : ∀ t t' : CpuState D,
    t.cpu.reg (bits code 15 11) = (s.cpu.reg (bits code 15 11)).reverse →
    (i.mirror.exec code).run t = (.ok (), t') → SameSearch code s' t'

section Outcome

variable {i : SearchInstr} {code : OpCode} {s s' : CpuState D}

/-- A search that ended leaves this position and these flags. -/
theorem search_outcome (hrun : (i.exec code).run s = (.ok (), s')) :
    (∀ n, s'.cpu.reg n = if n = bits code 31 27 then
        foundWord (i.find (s.cpu.reg (bits code 15 11))) else s.cpu.reg n) ∧
      s'.cpu.issetPsw pswCY = true ∧ s'.cpu.issetPsw pswOV = false ∧
      s'.cpu.issetPsw pswS = false ∧
      s'.cpu.issetPsw pswZ = (i.find (s.cpu.reg (bits code 15 11))).isNone := by
  obtain ⟨h3, hafter⟩ := run_search i code s
  rw [hafter] at hrun
  cases hrun
  refine ⟨?_, ?_, ?_, ?_, ?_⟩
  · exact reg_after s 4 h3 _ (r_writeFlags _)
  · rw [issetPsw_after, searchFlags, issetPsw_writeFlags _ _ (by decide)]
    rfl
  · rw [issetPsw_after, searchFlags, issetPsw_writeFlags _ _ (by decide)]
    rfl
  · rw [issetPsw_after, searchFlags, issetPsw_writeFlags _ _ (by decide)]
    rfl
  · rw [issetPsw_after, searchFlags, issetPsw_writeFlags _ _ (by decide)]
    rfl

/-- Searches that find the same place end alike. -/
theorem sameSearch_of_find {i' : SearchInstr} {t t' : CpuState D}
    (hrun : (i.exec code).run s = (.ok (), s')) (hrun' : (i'.exec code).run t = (.ok (), t'))
    (hfind : i'.find (t.cpu.reg (bits code 15 11)) = i.find (s.cpu.reg (bits code 15 11))) :
    SameSearch code s' t' := by
  obtain ⟨hreg, hcy, hov, hs, hz⟩ := search_outcome hrun
  obtain ⟨hreg', hcy', hov', hs', hz'⟩ := search_outcome hrun'
  constructor
  · rw [hreg, hreg', if_pos rfl, if_pos rfl, hfind]
  · intro bit hbit
    simp only [List.mem_cons, List.not_mem_nil, or_false] at hbit
    rcases hbit with rfl | rfl | rfl | rfl
    · rw [hz, hz', hfind]
    · rw [hs, hs']
    · rw [hov, hov']
    · rw [hcy, hcy']

/-- The relations between the four instructions hold for every value. -/
theorem search_related (hrun : (i.exec code).run s = (.ok (), s')) :
    SearchRelated i code s s' := by
  constructor
  · intro t t' hvalue hrun'
    refine sameSearch_of_find hrun hrun' ?_
    rw [hvalue, i.find_opposite]
  · intro t t' hvalue hrun'
    refine sameSearch_of_find hrun hrun' ?_
    rw [hvalue, i.find_mirror]

/-- The carry flag is the only thing that can be wrong. -/
theorem searchCorrect_iff (hrun : (i.exec code).run s = (.ok (), s')) :
    SearchCorrect i code s s' ↔ i.FirstMatch (s.cpu.reg (bits code 15 11)) 31 := by
  obtain ⟨hreg, hcy, -, -, hz⟩ := search_outcome hrun
  have hresult := hreg (bits code 31 27)
  rw [if_pos rfl] at hresult
  constructor
  · intro h
    exact h.carry.mp hcy
  · intro hlast
    exact
      { position := by
          intro k hk
          rw [hresult, (i.find_eq_some_iff _).mpr hk]
          exact toNat_foundWord hk.1
        absent := by
          intro hnone
          rw [hresult, (i.find_eq_none_iff _).mpr hnone]
          rfl
        others := by
          intro n hne
          rw [hreg, if_neg hne]
        zero := by
          rw [hz, Option.isNone_iff_eq_none]
          exact i.find_eq_none_iff _
        carry := iff_of_true hcy hlast }

end Outcome

/-- A search is right on one value only, the one whose last bit is the first to
match; the four instructions are related on all of them. -/
theorem search_exact (i : SearchInstr) (code : OpCode) (s : CpuState D) :
    (∃ s', (i.exec code).run s = (.ok (), s') ∧ SearchCorrect i code s s' ∧
      SearchRelated i code s s') ↔ s.cpu.reg (bits code 15 11) = i.lastOnly := by
  obtain ⟨h3, hrun⟩ := run_search i code s
  rw [← i.firstMatch_last_iff]
  constructor
  · rintro ⟨s', hrun', hcorrect, -⟩
    exact (searchCorrect_iff hrun').mp hcorrect
  · intro hlast
    exact ⟨_, hrun, (searchCorrect_iff hrun).mpr hlast, search_related hrun⟩

/-- `SCH1R r1, r2`. -/
def sch1rCode : OpCode := fun n => [0x0FE0, 0x1362].getD n 0

/-- On a zero register, `SCH1R` finds nothing and sets the carry flag. -/
theorem search_carry_always :
    parseOptype sch1rCode = some ⟨.sch1r_9, .format9⟩ ∧
      ¬ ∃ s', (SearchInstr.sch1r.exec sch1rCode).run resetState = (.ok (), s') ∧
        SearchCorrect .sch1r sch1rCode resetState s' ∧
          SearchRelated .sch1r sch1rCode resetState s' := by
  refine ⟨by decide +kernel, ?_⟩
  rintro ⟨s', hrun, hcorrect, -⟩
  have hs' : s' = ((SearchInstr.sch1r.exec sch1rCode).run resetState).2 := by
    rw [hrun]
  have hcarry : s'.cpu.issetPsw pswCY = true := by
    rw [hs']
    decide +kernel
  have hzero := (hcorrect.carry.mp hcarry).2.1
  revert hzero
  decide +kernel

end Exec

end Athrill
