import RvIommuTests.Console
import RvIommuTests.Lib.Progress
import RvIommuTests.Lib.Wp

/-!
# What the console puts out

In any interleaving with a UART that sends at its own speed, from whatever state the boot loader has left it in.
-/

namespace RvIommuTests

open Shared

namespace ConsoleAux

/-! ## The driver's view of the UART -/

/-- What the driver knows of the UART: whether the divisor latch is open, what the UART has taken, and whether it takes another
character for sure. -/
structure View where
  dlab : Bool
  free : Bool
  taken : List Byte

/-- The contract of the accesses of a program that is to put out `goal`: a character is only written when the UART takes it, and it
is the next one of `goal`. Neither of the first two registers is written while the divisor latch is open. -/
def contract (goal : List Byte) : Contract UartIo UartIo.Answer View where
  pre
    | .write .thr c, v => v.dlab = false ∧ v.free = true ∧ v.taken ++ [c.setWidth 8] <+: goal
    | .write .ier _, v => v.dlab = false
    | _, _ => True
  post
    | .read .lsr, v, r, v' => v' = if threSet r = true then { v with free := true } else v
    | .write .thr c, v, _, v' => v' = { v with free := false, taken := v.taken ++ [c.setWidth 8] }
    | .write .lcr x, v, _, v' => v' = { v with dlab := (x.setWidth 8).getLsbD 7 }
    | _, v, _, v' => v' = v

/-- The view is right. Since the state `u` the UART has lost nothing, and it has still the same divisor. -/
structure Sees (goal : List Byte) (u s : Uart) (v : View) : Prop where
  dlab : s.dlab = v.dlab
  free : v.free = true → s.thr = none
  taken : s.taken = v.taken
  since : u.taken <+: v.taken
  sofar : v.taken <+: goal
  divisor : s.dll = u.dll ∧ s.dlh = u.dlh

/-- Sending the character in the holding register changes nothing about what the UART has taken. -/
theorem taken_send {s : Uart} {c : Byte} (h : s.thr = some c) :
    ({ s with thr := none, sent := s.sent ++ [c] } : Uart).taken = s.taken := by
  unfold Uart.taken
  rw [h]
  exact List.append_nil _

/-- A character written to an empty holding register is taken last. -/
theorem taken_write {s : Uart} (h : s.thr = none) (c : Byte) : ({ s with thr := some c } : Uart).taken = s.taken ++ [c] := by
  unfold Uart.taken
  rw [h]
  exact congrArg (· ++ [c]) (List.append_nil _).symm

/-- The UART follows the contract of the driver, whenever it sends what waits. -/
theorem contract_keptBy (goal : List Byte) (u : Uart) : (contract goal).KeptBy Uart.world (Sees goal u) := by
  constructor
  · intro i s v r s' h hpre hsem
    cases i with
    | read reg =>
      cases reg with
      | lsr =>
        obtain ⟨hthr, rfl⟩ := hsem
        refine ⟨_, rfl, ?_⟩
        split
        · rename_i ht
          exact ⟨h.dlab, fun _ => hthr ht, h.taken, h.since, h.sofar, h.divisor⟩
        · exact h
      | lcr =>
        obtain ⟨-, rfl⟩ := hsem
        exact ⟨v, rfl, h⟩
      | _ =>
        cases hsem
        exact ⟨v, rfl, h⟩
    | write reg x =>
      cases hsem
      cases reg with
      | thr =>
        obtain ⟨hdlab, hfree, hnext⟩ := hpre
        refine ⟨_, rfl, ?_⟩
        have hw : s.write .thr (x.setWidth 8) = { s with thr := some (x.setWidth 8) } :=
          if_neg (by rw [h.dlab, hdlab]; exact Bool.false_ne_true)
        rw [hw]
        exact ⟨h.dlab, fun hf => (Bool.false_ne_true hf).elim,
          (taken_write (h.free hfree) _).trans (congrArg (· ++ _) h.taken), h.since.trans (List.prefix_append _ _), hnext,
          h.divisor⟩
      | ier =>
        have hw : s.write .ier (x.setWidth 8) = { s with ier := x.setWidth 8 } :=
          if_neg (by rw [h.dlab, show v.dlab = false from hpre]; exact Bool.false_ne_true)
        rw [hw]
        exact ⟨v, rfl, h.dlab, h.free, h.taken, h.since, h.sofar, h.divisor⟩
      | lcr => exact ⟨_, rfl, rfl, h.free, h.taken, h.since, h.sofar, h.divisor⟩
      | mcr => exact ⟨v, rfl, h⟩
      | lsr => exact ⟨v, rfl, h⟩
      | msr => exact ⟨v, rfl, h⟩
  · rintro s v s' h ⟨c, hc, rfl⟩
    exact ⟨h.dlab, fun _ => rfl, (taken_send hc).trans h.taken, h.since, h.sofar, h.divisor⟩

/-! ## The driver -/

variable {goal : List Byte} {v : View}

/-- `uart_putc` hands over its character when that is the next one to be put out, and keeps the divisor. -/
theorem uartPutc_wp {c : Byte} {Q : Unit → View → Prop} (hdlab : v.dlab = false) (hnext : v.taken ++ [c] <+: goal)
    (hQ : Q () { v with free := false, taken := v.taken ++ [c] }) : wp (contract goal) (uartPutc c) Q v := by
  have hc : (c.signExtend 32).setWidth 8 = c := by
    ext i hi
    simp only [BitVec.getElem_setWidth, BitVec.getLsbD_signExtend, BitVec.getLsbD_eq_getElem hi]
    rw [if_pos hi, decide_eq_true (by omega), Bool.true_and]
  unfold uartPutc
  rw [wp_bind, wp_waitFor]
  refine ⟨trivial, ?_⟩
  rintro r _ rfl
  split
  · refine ⟨⟨hdlab, rfl, by rwa [hc]⟩, ?_⟩
    rintro _ _ rfl
    rw [hc]
    exact hQ
  · rfl

/-- The loop of `_write` puts out what is left of its characters, by induction on their number. -/
theorem writeLoop_wp (ptr : Nat → Byte) (n i : Nat) {base : List Byte} {Q : Unit → View → Prop} (hdlab : v.dlab = false)
    (hgoal : v.taken ++ crlf ((List.range' i n).map ptr) <+: goal) (hbase : v.taken = base)
    (hQ : ∀ v', v'.dlab = false → v'.taken = base ++ crlf ((List.range' i n).map ptr) → Q () v') :
    wp (contract goal) (Retarget.writeLoop ptr n i) Q v := by
  induction n generalizing i v base with
  | zero => exact hQ v hdlab (hbase.trans (List.append_nil base).symm)
  | succ n ih =>
    rw [List.range'_succ, List.map_cons] at hgoal hQ
    unfold Retarget.writeLoop
    by_cases hnl : ptr i = newline
    · rw [crlf, hnl, Marks.encode_special] at hgoal hQ
      rw [hnl, if_pos rfl, wp_bind]
      refine uartPutc_wp hdlab ((List.prefix_append _ _).trans (by simpa using hgoal)) ?_
      rw [wp_bind]
      refine uartPutc_wp hdlab ((List.prefix_append _ _).trans (by simpa using hgoal)) ?_
      refine ih (i + 1) hdlab (by simpa [crlf] using hgoal) rfl ?_
      intro v' hv' htaken
      refine hQ v' hv' (htaken.trans ?_)
      rw [hbase, crlf]
      simp
    · rw [crlf, Marks.encode_other hnl] at hgoal hQ
      rw [if_neg hnl, wp_bind]
      refine uartPutc_wp hdlab ((List.prefix_append _ _).trans (by simpa using hgoal)) ?_
      refine ih (i + 1) hdlab (by simpa [crlf] using hgoal) rfl ?_
      intro v' hv' htaken
      refine hQ v' hv' (htaken.trans ?_)
      rw [hbase, crlf]
      simp

/-- The line ends of a text that is put out in two parts are put out in parts, too. -/
theorem crlf_append (xs ys : List Byte) : crlf (xs ++ ys) = crlf xs ++ crlf ys := Marks.encode_append xs ys

/-- Any calls of `_write` put out their characters, by induction on the calls. -/
theorem writeAll_wp (cs : List WriteCall) (hdlab : v.dlab = false)
    (hgoal : v.taken ++ crlf (cs.flatMap WriteCall.text) = goal) :
    wp (contract goal) (writeAll cs) (fun rs v' => rs = cs.map WriteCall.len ∧ v'.taken = goal) v := by
  induction cs generalizing v with
  | nil => exact ⟨rfl, (List.append_nil _).symm.trans hgoal⟩
  | cons c cs ih =>
    rw [List.flatMap_cons, crlf_append, ← List.append_assoc] at hgoal
    have htext : c.text = (List.range' 0 c.len.toNat).map c.ptr := by rw [WriteCall.text, List.range_eq_range']
    unfold writeAll Retarget.write
    rw [wp_bind, wp_bind]
    refine writeLoop_wp c.ptr c.len.toNat 0 hdlab (htext ▸ hgoal ▸ List.prefix_append _ _) rfl ?_
    intro v' hv' htaken
    rw [wp_pure, wp_bind]
    refine wp_mono (ih hv' (by rw [htaken, ← htext]; exact hgoal)) ?_
    rintro rs w ⟨rfl, hw⟩
    exact ⟨rfl, hw⟩

/-- The whole console. When the divisor latch is closed, nothing but the line control register has been written. -/
theorem console_wp (cs : List WriteCall) (hgoal : v.taken ++ crlf (cs.flatMap WriteCall.text) = goal) :
    wp (contract goal) (console cs) (fun rs v' => rs = cs.map WriteCall.len ∧ v'.taken = goal) v := by
  refine ⟨trivial, ?_⟩
  rintro lcr _ rfl
  refine ⟨trivial, ?_⟩
  rintro _ _ rfl
  refine ⟨trivial, ?_⟩
  rintro lcr _ rfl
  refine ⟨trivial, ?_⟩
  rintro _ _ rfl
  refine ⟨trivial, ?_⟩
  rintro _ _ rfl
  refine ⟨rfl, ?_⟩
  rintro _ _ rfl
  refine ⟨trivial, ?_⟩
  rintro _ _ rfl
  refine ⟨trivial, ?_⟩
  rintro lsr _ rfl
  refine ⟨trivial, ?_⟩
  rintro _ _ rfl
  refine writeAll_wp cs ?_ ?_
  · split
    · rfl
    · rfl
  · split
    · exact hgoal
    · exact hgoal

/-! ## The UART always goes on -/

/-- Every access of the driver is answered, the one that it polls after what waits has been sent. -/
theorem answered (i : UartIo) (s : Uart) : ∃ s₁ r s', Uart.world.Drift s s₁ ∧ Uart.world.sem i s₁ r s' := by
  cases i with
  | read reg =>
    cases reg with
    | lcr => exact ⟨s, s.lcr.setWidth 32, s, .refl, by simp, rfl⟩
    | lsr => exact ⟨s, 0#32, s, .refl, fun h => absurd h (by decide), rfl⟩
    | _ => exact ⟨s, 0#32, s, .refl, rfl⟩
  | write reg x => exact ⟨s, (), _, .refl, rfl⟩

/-- The UART can send what it holds, and then reports an empty holding register. -/
theorem sent_first (s : Uart) : ∃ s₁ r s', Uart.world.Drift s s₁ ∧ Uart.world.sem (.read .lsr) s₁ r s' ∧ threSet r = true := by
  cases hthr : s.thr with
  | none => exact ⟨s, uart8250LsrThre, s, .refl, ⟨fun _ => hthr, rfl⟩, by decide⟩
  | some c =>
    exact ⟨_, uart8250LsrThre, _, .single ⟨c, hthr, rfl⟩, ⟨fun _ => rfl, rfl⟩, by decide⟩

/-- A call of `uart_putc` comes to its end, because the UART gets to send what waits. -/
theorem uartPutc_served (c : Byte) : (uartPutc c).Served Uart.world :=
  .bind (.waitFor sent_first) fun _ => .call (answered _)

/-- The loop of `_write` comes to its end, as each of its rounds does. -/
theorem writeLoop_served (ptr : Nat → Byte) (n i : Nat) : (Retarget.writeLoop ptr n i).Served Uart.world := by
  induction n generalizing i with
  | zero => trivial
  | succ n ih =>
    unfold Retarget.writeLoop
    split
    · exact .bind (uartPutc_served _) fun _ => .bind (uartPutc_served _) fun _ => ih (i + 1)
    · exact .bind (uartPutc_served _) fun _ => ih (i + 1)

/-- Calls of `_write` in sequence come to their end, by induction over them. -/
theorem writeAll_served (cs : List WriteCall) : (writeAll cs).Served Uart.world := by
  induction cs with
  | nil => trivial
  | cons c cs ih =>
    exact .bind (.bind (writeLoop_served _ _ _) fun _ => trivial) fun _ => .bind ih fun _ => trivial

/-- The startup and the calls after it come to their end. -/
theorem console_served (cs : List WriteCall) : (console cs).Served Uart.world := by
  refine .bind ?_ fun _ => writeAll_served cs
  refine .bind (.call (answered _)) fun _ => .bind (.call (answered _)) fun _ => .bind (.call (answered _)) fun _ =>
    .bind (.call (answered _)) fun _ => .bind (.call (answered _)) fun _ => .bind (.call (answered _)) fun _ =>
    .bind (.call (answered _)) fun _ => .bind (.call (answered _)) fun _ => .call (answered _)

/-! ## Runs of the console -/

variable {cs : List WriteCall} {s t : Uart} {q : UartDriver (List Int)}

/-- At every point of a run the view of the driver is right, and what is left of the calls puts out what is left of the text. -/
theorem run_sees (hrun : Run Uart.world (console cs) s q t) :
    ∃ v, Sees (s.taken ++ crlf (cs.flatMap WriteCall.text)) s t v ∧
      ∀ rs, q = .ret rs → rs = cs.map WriteCall.len ∧ v.taken = s.taken ++ crlf (cs.flatMap WriteCall.text) := by
  have hsees : Sees (s.taken ++ crlf (cs.flatMap WriteCall.text)) s s ⟨s.dlab, false, s.taken⟩ :=
    ⟨rfl, fun h => (Bool.false_ne_true h).elim, rfl, List.prefix_rfl, List.prefix_append _ _, rfl, rfl⟩
  obtain ⟨v, hv, hq⟩ := wp_run (contract_keptBy _ s) hrun (console_wp (v := ⟨s.dlab, false, s.taken⟩) cs rfl) hsees
  refine ⟨v, hv, ?_⟩
  rintro rs rfl
  exact hq

/-- At every point of a run the UART has taken a part of the text from its start. -/
theorem run_initial (hrun : Run Uart.world (console cs) s q t) :
    ∃ text, text <+: crlf (cs.flatMap WriteCall.text) ∧ t.taken = s.taken ++ text := by
  obtain ⟨v, hv, -⟩ := run_sees hrun
  obtain ⟨text, htext⟩ : s.taken <+: t.taken := hv.taken ▸ hv.since
  refine ⟨text, ?_, htext.symm⟩
  have hsofar := hv.sofar
  rwa [← hv.taken, ← htext, List.prefix_append_right_inj] at hsofar

/-- When the calls have returned, the UART has taken the whole text, and each call has returned its length. -/
theorem run_returned {rs : List Int} (hrun : Run Uart.world (console cs) s (.ret rs) t) :
    rs = cs.map WriteCall.len ∧ t.taken = s.taken ++ crlf (cs.flatMap WriteCall.text) := by
  obtain ⟨v, hv, hret⟩ := run_sees hrun
  exact ⟨(hret rs rfl).1, hv.taken.trans (hret rs rfl).2⟩

/-- On a UART that has taken nothing yet, calls put out the stream of their texts and no other. -/
theorem putOut_iff {w : List Byte} (hs : s.taken = []) : PutOut s cs w ↔ crlf (cs.flatMap WriteCall.text) = w := by
  have htaken : ∀ rs t, Run Uart.world (console cs) s (.ret rs) t → t.taken = crlf (cs.flatMap WriteCall.text) := by
    intro rs t hrun
    rw [(run_returned hrun).2, hs, List.nil_append]
  constructor
  · rintro ⟨⟨rs, t, hrun⟩, hw⟩
    exact (htaken rs t hrun).symm.trans (hw rs t hrun)
  · rintro rfl
    exact ⟨(console_served cs).returns s, htaken⟩

/-! ## Calls for a text -/

/-- The call that writes a single character. -/
def single (c : Byte) : WriteCall := ⟨fun _ => c, 1, by omega⟩

/-- The call that writes a text, which must be short enough for the length to be an `int`. -/
def whole (xs : List Byte) (h : xs.length < 2 ^ 31) : WriteCall := ⟨fun i => xs.getD i 0#8, xs.length, by omega⟩

/-- A text of any length is that of calls for its characters, one by one. -/
theorem text_singles (xs : List Byte) : (xs.map single).flatMap WriteCall.text = xs := by
  rw [List.flatMap_map]
  exact List.flatMap_singleton' xs

/-- The single call for a text puts that text out. -/
theorem text_whole (xs : List Byte) (h : xs.length < 2 ^ 31) : (whole xs h).text = xs := by
  refine List.ext_getElem (by simp [WriteCall.text, whole]) ?_
  intro i _ hi
  simp [WriteCall.text, whole, List.getElem?_eq_getElem hi]

/-- The text of a single call is shorter than 2^31 characters. -/
theorem length_text (c : WriteCall) : c.text.length < 2 ^ 31 := by
  have hlen := c.isInt.2
  rw [WriteCall.text, List.length_map, List.length_range]
  omega

end ConsoleAux

open ConsoleAux

/-- In any interleaving of `_init` and any calls of `_write` with the UART, in whatever state it was: at every point the UART has
taken a part of the text from its start, with a carriage return before each line feed, in order and with nothing lost or doubled,
and it has kept its divisor. When the calls have returned, it has taken all of the text, and each call has returned its length.
From every point on the calls can return. -/
theorem console_stream (cs : List WriteCall) {s t : Uart} {q : UartDriver (List Int)} (hrun : Run Uart.world (console cs) s q t) :
    (∃ text, text <+: crlf (cs.flatMap WriteCall.text) ∧ t.taken = s.taken ++ text) ∧ (t.dll = s.dll ∧ t.dlh = s.dlh) ∧
      (∀ rs, q = .ret rs → rs = cs.map WriteCall.len ∧ t.taken = s.taken ++ crlf (cs.flatMap WriteCall.text)) ∧
      ∃ rs u, Run Uart.world q t (.ret rs) u := by
  obtain ⟨v, hv, -⟩ := run_sees hrun
  refine ⟨run_initial hrun, hv.divisor, ?_, hrun.completes (console_served cs)⟩
  rintro rs rfl
  exact run_returned hrun

/-- A UART that sends before it answers is one of those. -/
theorem ConsoleAux.step_sound (i : UartIo) (s : Uart) (r : i.Answer) (s' : Uart) (h : Uart.step i s = some (r, s')) :
    ∃ s₁, Uart.world.Drift s s₁ ∧ Uart.world.sem i s₁ r s' := by
  cases i with
  | read reg =>
    cases reg with
    | lcr =>
      cases h
      exact ⟨s, .refl, by simp, rfl⟩
    | lsr =>
      cases h
      cases hthr : s.thr with
      | none =>
        have hs : ({ s with thr := none, sent := s.taken } : Uart) = s := by
          obtain ⟨lcr, ier, dll, dlh, thr, sent⟩ := s
          cases hthr
          simp [Uart.taken]
        exact ⟨s, .refl, fun _ => hthr, hs⟩
      | some c =>
        refine ⟨_, .single ⟨c, hthr, rfl⟩, fun _ => rfl, ?_⟩
        simp [Uart.taken, hthr]
    | _ =>
      cases h
      exact ⟨s, .refl, rfl⟩
  | write reg x =>
    cases h
    exact ⟨s, .refl, rfl⟩

/-- The theorem at a call that writes the letter A and a line feed. -/
theorem console_stream_at :
    ∃ rs t, Run Uart.world (console [⟨fun i => if i = 0 then 0x41#8 else newline, 2, by omega⟩]) Uart.open9600 (.ret rs) t ∧
      t.taken = [0x41#8, carriageReturn, newline] ∧ t.dll = 0x0C#8 := by
  have hrun :
      ((console [⟨fun i => if i = 0 then 0x41#8 else newline, 2, by omega⟩]).exec Uart.step Uart.open9600).isSome = true := by
    decide
  obtain ⟨⟨rs, t⟩, hx⟩ := Option.isSome_iff_exists.1 hrun
  have hr := Run.of_exec_drift ConsoleAux.step_sound hx
  obtain ⟨-, hdivisor, hret, -⟩ := console_stream _ hr
  exact ⟨rs, t, hr, (hret rs rfl).2, hdivisor.1⟩

/-- What the UART takes tells the text: without the carriage return before each line feed it is the text again. And the console can
put out exactly what a terminal reads well: at every point each line feed follows a carriage return, and every such stream, however
long, is put out by calls of `_write`. A single call is enough for it exactly if its text has fewer than 2^31 characters, the
lengths that an `int` has. -/
theorem console_decodes {s : Uart} (hs : s.taken = []) :
    (∀ (cs : List WriteCall) (rs : List Int) (t : Uart), Run Uart.world (console cs) s (.ret rs) t →
      Marks.decode carriageReturn newline t.taken = cs.flatMap WriteCall.text) ∧
    (∀ (cs : List WriteCall) (q : UartDriver (List Int)) (t : Uart), Run Uart.world (console cs) s q t →
      Marks.Marked carriageReturn newline false t.taken) ∧
    ∀ w, Marks.Marked carriageReturn newline false w →
      (∃ cs, PutOut s cs w) ∧
      ((∃ c, PutOut s [c] w) ↔ (Marks.decode carriageReturn newline w).length < 2 ^ 31) := by
  have hne : carriageReturn ≠ newline := by decide
  refine ⟨?_, ?_, ?_⟩
  · intro cs rs t hrun
    rw [(run_returned hrun).2, hs]
    exact Marks.decode_encode hne _
  · intro cs q t hrun
    obtain ⟨text, hp, ht⟩ := run_initial hrun
    rw [ht, hs]
    exact (Marks.marked_encode hne _ false).initial hp
  · intro w hw
    have hput : ∀ {cs : List WriteCall}, cs.flatMap WriteCall.text = Marks.decode carriageReturn newline w → PutOut s cs w := by
      intro cs htext
      rw [putOut_iff hs, htext]
      exact Marks.encode_decode hne w hw
    refine ⟨⟨_, hput (text_singles _)⟩, ?_, ?_⟩
    · rintro ⟨c, hc⟩
      rw [putOut_iff hs, List.flatMap_singleton] at hc
      have hdecode : Marks.decode carriageReturn newline w = c.text := by
        rw [← hc]
        exact Marks.decode_encode hne _
      rw [hdecode]
      exact length_text c
    · intro hlen
      refine ⟨whole _ hlen, hput ?_⟩
      rw [List.flatMap_singleton]
      exact text_whole _ hlen

/-- The theorem at the UART as a boot loader may have left it, and two calls, the first of which breaks a line off: their texts are
read off what it has taken, and a stream of four characters is put out by a single call, as its text has three. -/
theorem console_decodes_at :
    (∃ rs t, Run Uart.world (console [⟨fun _ => newline, 2, by omega⟩, ⟨fun _ => 0x41#8, 1, by omega⟩]) Uart.open9600 (.ret rs) t ∧
      Marks.decode carriageReturn newline t.taken = [newline, newline, 0x41#8]) ∧
    ∃ c, PutOut Uart.open9600 [c] [0x41#8, carriageReturn, newline, carriageReturn] := by
  obtain ⟨htext, -, hput⟩ := console_decodes (s := Uart.open9600) rfl
  obtain ⟨rs, t, hrun⟩ := (ConsoleAux.console_served
    [⟨fun _ => newline, 2, by omega⟩, ⟨fun _ => 0x41#8, 1, by omega⟩]).returns Uart.open9600
  exact ⟨⟨rs, t, hrun, htext _ rs t hrun⟩, (hput _ (by decide)).2.2 (by decide)⟩

end RvIommuTests
