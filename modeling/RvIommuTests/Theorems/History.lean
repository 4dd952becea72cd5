import RvIommuTests.Lemmas.History
import RvIommuTests.Theorems.Handlers

/-!
# What is left of the traps before

Whether the record that a handler leaves describes the last trap only: of the three handlers, `vshandler` leaves four fields of
`excpt` as the trap before left them.
-/

namespace RvIommuTests

open Riscv HistoryAux TwoRuns

/-- The handler of a mode, which leaves `s₁` after a trap, reports the same whatever the traps before have left in the record. -/
def ReportsTrapOnly (img : Image) (fuel : Nat) (s : Sys) (t : Hart.Trap) (f : Mode) (s₁ : Sys) : Prop :=
  ∀ x, SameSetup s.excpt x → ∃ answer s₂,
    handler img (gotoPriv img fuel) f (({ s with excpt := x } : Sys).trapTo t f) = .ok (answer, s₂) ∧
      SameReport s₁.excpt s₂.excpt

namespace HistoryAux

/-- Two records with what a test sets up, and different trapped instructions. -/
def OtherInst (e x : Excpt) : Prop := SameSetup e x ∧ x.tinst ≠ e.tinst

theorem vsKeeps_otherInst : VSKeeps OtherInst :=
  ⟨And.left, fun h => ⟨vsKeeps_sameSetup.leave h.1, h.2⟩, fun _ _ _ h => ⟨vsKeeps_sameSetup.record _ _ _ h.1, h.2⟩⟩

theorem sameReport_refl (e : Excpt) : SameReport e e := ⟨rfl, rfl, rfl, rfl, rfl, rfl, rfl, rfl, rfl⟩

/-- A handler that leaves one record of two histories reports the trap only. -/
theorem reportsTrapOnly_of_agree {img : Image} {fuel : Nat} {s s₁ : Sys} {t : Hart.Trap} {f : Mode} {answer : Word}
    (hrun : handler img (gotoPriv img fuel) f (s.trapTo t f) = .ok (answer, s₁))
    (h : ∀ s', History (s.trapTo t f) s' →
      Agree Eq (handler img (gotoPriv img fuel) f (s.trapTo t f)) (handler img (gotoPriv img fuel) f s')) :
    ReportsTrapOnly img fuel s t f s₁ := by
  intro x hx
  have hagree := h (({ s with excpt := x } : Sys).trapTo t f) ⟨x, rfl, hx⟩
  rw [hrun] at hagree
  obtain ⟨_, hrun', rfl⟩ := hagree.ok
  exact ⟨answer, _, hrun', sameReport_refl _⟩

end HistoryAux

/-- When a handler has handled a trap, its record depends on the traps before exactly in the traps into VS mode that do not carry
a request which `goto_priv` passes on to HS or M mode: `vshandler` writes neither `tinst` nor `tval2`, `gva` and `xpv`. -/
theorem record_reports_trap_iff (img : Image) (fuel : Nat) {s s₁ : Sys} {t : Hart.Trap} {f : Mode} {answer : Word}
    (hf : f = .m ∨ f = .hs ∨ f = .vs) (hi : f = .vs → Installed img s.hart)
    (hrun : handler img (gotoPriv img fuel) f (s.trapTo t f) = .ok (answer, s₁)) :
    ReportsTrapOnly img fuel s t f s₁ ↔ f = .m ∨ f = .hs ∨ Forwards s t.cause := by
  rcases hf with rfl | rfl | rfl
  · refine iff_of_true (reportsTrapOnly_of_agree hrun ?_) (Or.inl rfl)
    exact lock_mhandler (lock_gotoPriv fuel) _
  · refine iff_of_true (reportsTrapOnly_of_agree hrun ?_) (Or.inr (Or.inl rfl))
    exact lock_hshandler (lock_gotoPriv fuel) _
  · constructor
    · intro honly
      by_contra hcond
      have hnot : ¬ Forwards s t.cause := fun hfw => hcond (Or.inr (Or.inr hfw))
      have hother : OtherInst s.excpt { s.excpt with tinst := s.excpt.tinst + 1#64 } :=
        ⟨⟨rfl, rfl⟩, fun he => absurd (BitVec.add_right_eq_self.1 he) (by decide)⟩
      have hagree := @vshandler_apart img (s.trapTo t .vs) _ _ vsKeeps_otherInst fuel
        ⟨_, rfl, hother⟩ rfl hnot
      obtain ⟨answer', s₂, hrun', hreport⟩ := honly _ hother.1
      have hvs : vshandler img (gotoPriv img fuel) (s.trapTo t .vs) = .ok (answer, s₁) := hrun
      rw [hvs] at hagree
      obtain ⟨s₃, hs₃, _, rfl, hx⟩ := hagree.ok
      have hsame : (answer', s₂) = (answer, _) := Except.ok.inj (hrun'.symm.trans hs₃)
      have htinst := hreport.tinst
      rw [congrArg (fun r : Word × Sys => r.2.excpt.tinst) hsame] at htinst
      exact hx.2 htinst
    · intro h
      rcases h with h | h | h
      · cases h
      · cases h
      · exact reportsTrapOnly_of_agree hrun fun s' hh => vshandler_up fuel hh rfl (hi rfl) h

/-- The theorem at a load guest-page fault, which goes to HS mode. -/
theorem record_reports_trap_at :
    ∃ answer s₁, handler Image.plain (gotoPriv Image.plain 0) .hs
        ((Sys.testing .vs).trapTo ⟨21, 0x80001230, 0x1000, 0x400, 0x3020, true⟩ .hs) = .ok (answer, s₁) ∧
      ReportsTrapOnly Image.plain 0 (Sys.testing .vs) ⟨21, 0x80001230, 0x1000, 0x400, 0x3020, true⟩ .hs s₁ :=
  ⟨_, _, rfl, (record_reports_trap_iff Image.plain 0 (s := Sys.testing .vs)
    (t := ⟨21, 0x80001230, 0x1000, 0x400, 0x3020, true⟩) (f := .hs) (Or.inr (Or.inl rfl)) (fun h => nomatch h) rfl).2
      (Or.inr (Or.inl rfl))⟩

/-- A load page fault that VS mode handles, after a guest-page fault that has left `0x3020` in `tinst`: the report is of a trapped
instruction that is not the trap's. -/
theorem vs_report_keeps_tinst :
    ∃ answer s₁, handler Image.plain (gotoPriv Image.plain 0) .vs
        ((Sys.testing .vu).trapTo ⟨13, 0x80001230, 0x1000, 0, 0, false⟩ .vs) = .ok (answer, s₁) ∧
      ¬ ReportsTrapOnly Image.plain 0 (Sys.testing .vu) ⟨13, 0x80001230, 0x1000, 0, 0, false⟩ .vs s₁ := by
  refine ⟨_, _, rfl, fun honly => ?_⟩
  obtain ⟨_, s₂, hrun, hreport⟩ := honly { (Sys.testing .vu).excpt with tinst := 0x3020#64 } ⟨rfl, rfl⟩
  cases hrun
  exact absurd hreport.tinst (by decide)

end RvIommuTests
