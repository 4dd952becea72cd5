import RvIommuTests.Lemmas.CommandLayout
import RvIommuTests.Queues

/-!
# The encoding of the commands

The round trip of the invalidation commands through the command layout, and the calls for which it holds. Then which calls write
a command that does not depend on what the stack held.
-/

namespace RvIommuTests

open Fields

/-- A command reads back as the arguments of its call exactly when the call gives no address. -/
theorem Inval.readsBack_iff (newCmd : Command) {i : Inval} (hi : i.InRange) :
    i.ReadsBack (i.command newCmd) ↔ i.av = false := by
  cases i with
  | ddtInval dv deviceId =>
    refine iff_of_true ?_ rfl
    exact iodir_ddtInval newCmd dv hi
  | iotinvalVma av gv pscv addr gscid pscid =>
    unfold Inval.ReadsBack Inval.command
    rw [iotinval_vma newCmd av gv pscv addr hi.1 hi.2, Inval.av]
    constructor
    · intro h
      exact (congrArg IotinvalFields.av h).symm
    · rintro rfl
      rfl
  | iotinvalGvma av gv addr gscid =>
    unfold Inval.ReadsBack Inval.command
    rw [iotinval_gvma newCmd av gv addr hi, Inval.av]
    constructor
    · intro h
      exact (congrArg IotinvalFields.av h).symm
    · rintro rfl
      rfl

/-- A command reads back as the arguments of its call exactly when the call gives no address: `IOTINVAL_AV` is the bit of the
flag in the first doubleword, but the driver ORs it into the second, where it falls on the lowest bit of the page. Two calls
without an address that ask for different things never make the same command, and in general two commands are equal exactly
when the calls are equal up to that bit of the page. -/
theorem invalidation_round_trip (newCmd : Command) {i : Inval} (hi : i.InRange) :
    (i.ReadsBack (i.command newCmd) ↔ i.av = false) ∧
    ∀ (newCmd' : Command) (j : Inval), j.InRange →
      (i.av = false → j.av = false → i.asked ≠ j.asked → i.command newCmd ≠ j.command newCmd') ∧
      (i.command newCmd = j.command newCmd' ↔ i.sent = j.sent) := by
  refine ⟨Inval.readsBack_iff newCmd hi, ?_⟩
  intro newCmd' j hj
  have hsent : i.command newCmd = j.command newCmd' ↔ i.sent = j.sent :=
    ⟨Inval.sent_of_command hi hj, Inval.command_of_sent newCmd newCmd'⟩
  refine ⟨?_, hsent⟩
  intro hav hav' hne h
  have hs := hsent.1 h
  rw [Inval.sent_eq_asked hav, Inval.sent_eq_asked hav'] at hs
  exact hne hs

/-- The theorem at calls without an address and at a device. -/
theorem invalidation_round_trip_at :
    Inval.ReadsBack (rvIommuIotinvalVma ⟨5, 7⟩ false true true 0x1000 0xABC 0xDEF)
      (.iotinvalVma false true true 0x1000 0xABC 0xDEF) ∧
    rvIommuDdtInval ⟨5, 7⟩ true 10 ≠ rvIommuDdtInval ⟨5, 7⟩ true 11 ∧
    rvIommuIotinvalGvma ⟨0, 0⟩ true true 0x2000 1 = rvIommuIotinvalGvma ⟨1, 1⟩ true true 0x3000 1 :=
  ⟨(@invalidation_round_trip ⟨5, 7⟩ (.iotinvalVma false true true 0x1000 0xABC 0xDEF) (by decide)).1.2 rfl,
    ((@invalidation_round_trip ⟨5, 7⟩ (.ddtInval true 10) (by decide)).2 ⟨5, 7⟩ (.ddtInval true 11) (by decide)).1 rfl rfl
      (by decide),
    ((@invalidation_round_trip ⟨0, 0⟩ (.iotinvalGvma true true 0x2000 1) (by decide)).2 ⟨1, 1⟩
      (.iotinvalGvma true true 0x3000 1) (by decide)).2.2 (by decide)⟩

/-- Invalidating by address does not read back: AV reads as clear. And the invalidations of two neighbouring pages are the
same command. -/
theorem invalidation_by_address_not_round_trip :
    (Inval.iotinvalVma true true true 0x2000 0xABC 0xDEF).InRange ∧
    ¬ Inval.ReadsBack (rvIommuIotinvalVma ⟨0, 0⟩ true true true 0x2000 0xABC 0xDEF)
      (.iotinvalVma true true true 0x2000 0xABC 0xDEF) ∧
    (Inval.iotinvalVma true true true 0x2000 0xABC 0xDEF).asked ≠
      (Inval.iotinvalVma true true true 0x3000 0xABC 0xDEF).asked ∧
    rvIommuIotinvalVma ⟨0, 0⟩ true true true 0x2000 0xABC 0xDEF =
      rvIommuIotinvalVma ⟨0, 0⟩ true true true 0x3000 0xABC 0xDEF := by
  refine ⟨by decide, ?_, by decide, by decide⟩
  intro h
  exact absurd (congrArg IotinvalFields.av h) (by decide)

/-! ## What the stack held -/

/-- What a call of the driver writes tells its command. -/
theorem rvIommuWriteCommandInQueue_inj {link : Link} {c c' : Command}
    (h : rvIommuWriteCommandInQueue link c = rvIommuWriteCommandInQueue link c') : c = c' := by
  unfold rvIommuWriteCommandInQueue read32 write64 write32 at h
  simp only [Shared.Prog.call_bind, Shared.Prog.act.injEq, heq_eq_eq, true_and, funext_iff, Access.write64.injEq] at h
  obtain ⟨h0, h1⟩ := h 0#32
  obtain ⟨h1, _⟩ := h1 ()
  cases c
  cases c'
  exact congrArg₂ Command.mk h0 h1

/-- Whatever the stack held, a call writes the same command, and an `IOFENCE.C` the one its flags say, exactly when it is not
`rv_iommu_iofence_c` without an address: there the second doubleword is not assigned. -/
theorem command_determined_iff (link : Link) (call : DriverCall) :
    ((∀ newCmd newCmd' : Command, call.run link newCmd = call.run link newCmd') ∧
      ∀ newCmd : Command, call.FenceReadsBack (call.command newCmd)) ↔
    ∀ wsi : Bool, call ≠ .iofenceC wsi false := by
  constructor
  · rintro ⟨hrun, _⟩ wsi rfl
    have h := rvIommuWriteCommandInQueue_inj (hrun ⟨0#64, 0#64⟩ ⟨0#64, 1#64⟩)
    cases wsi <;> exact absurd h (by decide)
  · intro hcall
    cases call with
    | inval i =>
      refine ⟨fun newCmd newCmd' => ?_, fun _ => trivial⟩
      exact congrArg (rvIommuWriteCommandInQueue link) (Inval.command_of_sent newCmd newCmd' rfl)
    | induceFaultCq => exact ⟨fun _ _ => rfl, fun _ => trivial⟩
    | iofenceC wsi av =>
      cases av with
      | false => exact absurd rfl (hcall wsi)
      | true =>
        have hfence : ∀ newCmd : Command, rvIommuIofenceC newCmd wsi true = rvIommuIofenceC ⟨0#64, 0#64⟩ wsi true := by
          intro newCmd
          cases wsi <;> rfl
        refine ⟨fun newCmd newCmd' => congrArg (rvIommuWriteCommandInQueue link) ((hfence _).trans (hfence _).symm), ?_⟩
        intro newCmd
        have hread : DriverCall.FenceReadsBack (rvIommuIofenceC ⟨0#64, 0#64⟩ wsi true) (.iofenceC wsi true) := by
          unfold DriverCall.FenceReadsBack
          cases wsi <;> decide
        rw [← hfence newCmd] at hread
        exact hread

/-- A fence without an address sends the word that the stack held, here with a reserved bit set. -/
theorem iofence_sends_stack :
    (rvIommuIofenceC ⟨0#64, 0#64⟩ true false).dw1 = 0#64 ∧
    (rvIommuIofenceC ⟨0#64, 0x8000000000000000#64⟩ true false).dw1 = 0x8000000000000000#64 ∧
    ∃ newCmd newCmd' : Command,
      (DriverCall.iofenceC true false).run .compact newCmd ≠ (DriverCall.iofenceC true false).run .compact newCmd' := by
  refine ⟨by decide, by decide, ⟨0#64, 0#64⟩, ⟨0#64, 0x8000000000000000#64⟩, ?_⟩
  intro h
  exact absurd (rvIommuWriteCommandInQueue_inj h) (by decide)

end RvIommuTests
