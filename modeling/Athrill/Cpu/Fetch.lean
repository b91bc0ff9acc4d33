import Athrill.Cpu.Run
import Athrill.Mpu.Coverage

/-!
# Which bytes of an instruction are checked

The size of the permission check of an instruction is looked up by the format
of the decoded record, which no decoder writes: it is always the size of the
first format, two bytes.  Regions consist of whole words, so the check decides
about the words that hold these two bytes; the rest of a longer instruction is
executed unchecked.

* `instrSize`: the bytes of an encoding.
* `EncodingPermitted`: every byte of the encoding may be executed.
* `encodingPermitted_iff`: when an executed instruction was permitted as a whole.
-/

namespace Athrill

open TargetCore

variable {D : Type}

/-! ## Sizes -/

/-- The bytes of `PREPARE`, by its sub-opcode. -/
def prepareSize (gen : HalfWord) : Nat :=
  if gen &&& 0x0007#16 = 1 then 4
  else if gen >>> 3 = 0b00#16 then 4
  else if gen >>> 3 = 0b11#16 then 8
  else 6

/-- The bytes of an encoding, as far as the executor goes on with `pc`. -/
def instrSize (codeId : OpCodeId) (d : OpDecodedCode) : Nat :=
  match codeId with
  | .mov_6 | .jr_6 | .jarl_6 | .jmp_6 => 6
  | .prepare_13 => prepareSize d.type13.gen
  | _ => (opFormatSize codeId.formatId).toNat

/-! ## Bytes and words -/

/-- The MPU lets the current mode execute the byte at address `byte`. -/
def ExecPermitted (cpu : TargetCore) (byte : Nat) : Prop :=
  ¬ ProtectionApplied cpu ∨ ∃ index, Applicable cpu .exec index ∧ InRegion cpu index byte

/-- The word holds one of the two bytes that the check looks at; a check that
runs past the end of the address space looks at none. -/
def CheckedWord (pc : Word) (word : Nat) : Prop :=
  pc.toNat + 2 < 2 ^ 32 ∧ (word = pc.toNat / 4 ∨ word = (pc.toNat + 1) / 4)

/-- Every byte of the encoding may be executed. -/
def EncodingPermitted (cpu : TargetCore) (size : Nat) : Prop :=
  ∀ k < size, ExecPermitted cpu (cpu.pc.toNat + k)

/-- Every word of the encoding but the checked ones may be executed. -/
def OtherWordsPermitted (cpu : TargetCore) (size : Nat) : Prop :=
  ∀ k < size, CheckedWord cpu.pc ((cpu.pc.toNat + k) / 4) ∨
    ∃ index, Applicable cpu .exec index ∧ InRegion cpu index (4 * ((cpu.pc.toNat + k) / 4))

/-- The lower bound of a region starts a word. -/
theorem regionLower_mod (cpu : TargetCore) (index : Fin 16) : regionLower cpu index % 4 = 0 := by
  unfold regionLower addrStartMask
  rw [BitVec.toNat_and, show (4 : Nat) = 2 ^ 2 from rfl, Nat.and_mod_two_pow]
  exact Nat.and_zero _

/-- The upper bound of a region ends a word. -/
theorem regionUpper_mod (cpu : TargetCore) (index : Fin 16) : regionUpper cpu index % 4 = 3 := by
  unfold regionUpper addrEndMask
  rw [BitVec.toNat_or, show (4 : Nat) = 2 ^ 2 from rfl, Nat.or_mod_two_pow]
  have hlow : (cpu.getSysreg2 (mpua index)).toNat % 2 ^ 2 < 4 := Nat.mod_lt _ (by decide)
  have hor : ∀ r < 4, r ||| 3 = 3 := by decide
  exact hor _ hlow

/-- A region holds a byte when it holds the word of the byte. -/
theorem inRegion_word (cpu : TargetCore) (index : Fin 16) (byte : Nat) :
    InRegion cpu index byte ↔ InRegion cpu index (4 * (byte / 4)) := by
  have hlower := regionLower_mod cpu index
  have hupper := regionUpper_mod cpu index
  unfold InRegion
  omega

/-! ## What the check has looked at -/

/-- The check does not look at the general registers. -/
theorem targetMpuHasPermission_clearR0 (cpu : TargetCore) (accessType : TargetMpuAccess)
    (addr size : Word) :
    (targetMpuHasPermission (clearR0 cpu) accessType addr size).1 =
      (targetMpuHasPermission cpu accessType addr size).1 :=
  (show SameProtection cpu (clearR0 cpu) from ⟨rfl, ⟨_, rfl⟩⟩).granted accessType addr size

/-- A call was granted by the check of two bytes. -/
theorem granted_of_calledNotCached {p : Platform D} {cached : Bool} {s : ClockState D}
    {call : Call D} (hform : CacheFormed p s) (hcall : calledNotCached p cached s = some call) :
    (targetMpuHasPermission s.cpu .exec s.cpu.pc 2).1 = true := by
  unfold calledNotCached at hcall
  rw [Option.bind_eq_some_iff] at hcall
  obtain ⟨bytes, _, hcall⟩ := hcall
  rw [Option.bind_eq_some_iff] at hcall
  obtain ⟨parsed, hparse, hcall⟩ := hcall
  have htype : parsed.2.typeId = .format1 :=
    (recordFormed_of_opParse hparse (hform.pDecodedCode cached s.cpu.pc)).typeId
  unfold calledParsed at hcall
  rw [htype] at hcall
  by_cases hgrant : (cpuHasPermission s.cpu .exec s.cpu.pc (opFormatSize .format1)).1 = true
  · exact hgrant
  · rw [if_neg hgrant] at hcall
    cases hcall

/-- Under protection the two bytes are covered, unless the check wraps. -/
theorem covered_of_granted {cpu : TargetCore} (hsync : ConfigSynced cpu)
    (happlied : ProtectionApplied cpu) (hwrap : cpu.pc.toNat + 2 < 2 ^ 32)
    (hgrant : (targetMpuHasPermission cpu .exec cpu.pc 2).1 = true) {k : Nat} (hk : k < 2) :
    ∃ index, Applicable cpu .exec index ∧ InRegion cpu index (cpu.pc.toNat + k) := by
  have hcheck : checkGrants cpu .exec cpu.pc 2 = true := by
    unfold checkGrants
    rw [show mpuSetConfig cpu = cpu from hsync]
    exact hgrant
  rw [checkGrants_of_applied happlied] at hcheck
  have hall := (mip_iff cpu .exec cpu.pc 2).mp hcheck
  have hsum : (cpu.pc + 2).toNat = cpu.pc.toNat + 2 := by
    rw [BitVec.toNat_add, show (2 : Word).toNat = 2 from rfl]
    omega
  exact hall k (by omega)

/-- A byte in a checked word is covered. -/
theorem covered_of_checkedWord {cpu : TargetCore} (hsync : ConfigSynced cpu)
    (happlied : ProtectionApplied cpu)
    (hgrant : (targetMpuHasPermission cpu .exec cpu.pc 2).1 = true) {byte : Nat}
    (hword : CheckedWord cpu.pc (byte / 4)) :
    ∃ index, Applicable cpu .exec index ∧ InRegion cpu index byte := by
  obtain ⟨hwrap, hword⟩ := hword
  rcases hword with hfirst | hsecond
  · obtain ⟨index, happ, hin⟩ := covered_of_granted hsync happlied hwrap hgrant (Nat.zero_lt_two)
    refine ⟨index, happ, ?_⟩
    rw [Nat.add_zero, inRegion_word, ← hfirst] at hin
    exact (inRegion_word cpu index byte).mpr hin
  · obtain ⟨index, happ, hin⟩ := covered_of_granted hsync happlied hwrap hgrant (Nat.one_lt_two)
    refine ⟨index, happ, ?_⟩
    rw [inRegion_word, ← hsecond] at hin
    exact (inRegion_word cpu index byte).mpr hin

/-! ## Executed instructions -/

/-- In every reachable state, an instruction that the uncached step executes
was permitted as a whole if and only if protection is not applied or the words
of its encoding that the check does not look at are permitted, too. -/
theorem encodingPermitted_iff {p : Platform D} {m : Machine D} (h : (machine p).Reachable m)
    (c : CoreId) (cached : Bool) {call : Call D}
    (hcall : calledNotCached p cached ((m.clockState c).modifyCpu clearR0) = some call) :
    EncodingPermitted (m.cores c) (instrSize call.codeId call.decodedCode) ↔
      ¬ ProtectionApplied (m.cores c) ∨
        OtherWordsPermitted (m.cores c) (instrSize call.codeId call.decodedCode) := by
  obtain ⟨_, hsync, hcache⟩ := wellFormed_of_reachable h
  have hgrant : (targetMpuHasPermission (m.cores c) .exec (m.cores c).pc 2).1 = true := by
    have hform : CacheFormed p ((m.clockState c).modifyCpu clearR0) := (hcache c).of_eq rfl rfl
    rw [← targetMpuHasPermission_clearR0]
    exact granted_of_calledNotCached hform hcall
  generalize instrSize call.codeId call.decodedCode = size
  by_cases happlied : ProtectionApplied (m.cores c)
  · constructor
    · intro hall
      right
      intro k hk
      rcases hall k hk with hoff | ⟨index, happ, hin⟩
      · exact absurd happlied hoff
      · exact Or.inr ⟨index, happ, (inRegion_word _ index _).mp hin⟩
    · intro hcond k hk
      rcases hcond with hoff | hother
      · exact absurd happlied hoff
      · right
        rcases hother k hk with hword | ⟨index, happ, hin⟩
        · exact covered_of_checkedWord (hsync c) happlied hgrant hword
        · exact ⟨index, happ, (inRegion_word _ index _).mpr hin⟩
  · exact iff_of_true (fun _ _ => Or.inl happlied) (Or.inl happlied)

/-! ## An instruction over the end of a region -/

/-- Region 0 from address 0 to `0xE7` becomes executable, then `MOVEA` with its
immediate from address `0xE8` follows. -/
def fetchProgram : List HalfWord :=
  -- MOVEA 0xE7, r0, r1; LDSR r1, MPAT0; LDSR r1, MPUA0; LDSR r1, MPM; JR 0xD6;
  -- MOVEA 0x1234, r0, r2
  [0x0E20, 0x00E7, 0x17E1, 0x3020, 0x0FE1, 0x3020, 0x07E1, 0x2820, 0x0780, 0x00D6] ++
    List.replicate 105 0 ++ [0x1620, 0x1234]

/-- The state after the jump. -/
def fetchMachine : Machine Unit :=
  (Machine.reset ()).clocks (romPlatform fetchProgram) 0 (fun _ => false) 5

theorem reachable_fetchMachine : (machine (romPlatform fetchProgram)).Reachable fetchMachine :=
  reachable_clocks (reachable_reset _ ()) (by decide +kernel)

/-- The call that the next clock makes. -/
theorem exists_call_fetchMachine :
    ∃ call, calledNotCached (romPlatform fetchProgram) false
        ((fetchMachine.clockState 0).modifyCpu clearR0) = some call ∧
      instrSize call.codeId call.decodedCode = 4 := by
  have hsize : (calledNotCached (romPlatform fetchProgram) false
      ((fetchMachine.clockState 0).modifyCpu clearR0)).map
        (fun call => instrSize call.codeId call.decodedCode) = some 4 := by
    decide +kernel
  exact Option.map_eq_some_iff.mp hsize

/-- The condition is decided for the call of the jump's target. -/
theorem encodingPermitted_iff_fetchMachine :
    ∃ call, calledNotCached (romPlatform fetchProgram) false
        ((fetchMachine.clockState 0).modifyCpu clearR0) = some call ∧
      (EncodingPermitted (fetchMachine.cores 0) (instrSize call.codeId call.decodedCode) ↔
        ¬ ProtectionApplied (fetchMachine.cores 0) ∨
          OtherWordsPermitted (fetchMachine.cores 0)
            (instrSize call.codeId call.decodedCode)) := by
  obtain ⟨call, hcall, _⟩ := exists_call_fetchMachine
  exact ⟨call, hcall, encodingPermitted_iff reachable_fetchMachine 0 false hcall⟩

/-- `MOVEA` completes although its immediate lies outside every executable
region. -/
theorem executed_not_permitted :
    ∃ call, (machine (romPlatform fetchProgram)).Reachable fetchMachine ∧
      calledNotCached (romPlatform fetchProgram) false
        ((fetchMachine.clockState 0).modifyCpu clearR0) = some call ∧
      (fetchMachine.clock (romPlatform fetchProgram) 0 fun _ => false).1 = .ok ∧
      ((fetchMachine.clock (romPlatform fetchProgram) 0 fun _ => false).2.cores 0).r 2 =
        0x1234 ∧
      ¬ EncodingPermitted (fetchMachine.cores 0) (instrSize call.codeId call.decodedCode) := by
  obtain ⟨call, hcall, hsize⟩ := exists_call_fetchMachine
  have hclock : (fetchMachine.clock (romPlatform fetchProgram) 0 fun _ => false).1 = .ok ∧
      ((fetchMachine.clock (romPlatform fetchProgram) 0 fun _ => false).2.cores 0).r 2 =
        0x1234 := by
    decide +kernel
  refine ⟨call, reachable_fetchMachine, hcall, hclock.1, hclock.2, fun hall => ?_⟩
  rw [hsize] at hall
  have happlied : ProtectionApplied (fetchMachine.cores 0) := by
    unfold ProtectionApplied
    decide +kernel
  have hpc : (fetchMachine.cores 0).pc.toNat = 0xE6 := by
    decide +kernel
  have hregions : ∀ index : Fin 16,
      ((fetchMachine.cores 0).getSysreg2 (mpat index)).getLsbD mpatE = true →
        regionUpper (fetchMachine.cores 0) index < 0xE8 := by
    decide +kernel
  rcases hall 2 (by omega) with hoff | ⟨index, happ, hin⟩
  · exact hoff happlied
  · have hupper := hregions index happ.enabled
    have hle := hin.2
    omega

end Athrill
