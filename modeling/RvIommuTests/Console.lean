import RvIommuTests.Lib.Marks
import RvIommuTests.Lib.Prog
import RvIommuTests.Platform

/-!
# The console

The UART driver of `8250_uart.c`, access by access, and the functions of `retarget_qemu.c` through which the C library uses it:
`_init`, which runs before `main`, and `_write`. The device is the UART as the driver meets it, with its divisor latch behind the
first two registers.
-/

namespace RvIommuTests

open Shared

/-- A character (`int8_t`, `char`). -/
abbrev Byte : Type := BitVec 8

/-! ## The driver -/

/-- The registers of `uart8250_t` that the code accesses, those in a union by their first name. -/
inductive UartReg where
  | thr | ier | lcr | mcr | lsr | msr
  deriving DecidableEq

/-- A single access of the driver to the UART. -/
inductive UartIo where
  | read (r : UartReg)
  | write (r : UartReg) (v : Word32)
  deriving DecidableEq

/-- What an access answers. -/
@[reducible] def UartIo.Answer : UartIo → Type
  | .read _ => Word32
  | .write _ _ => Unit

/-- A function of the driver. -/
abbrev UartDriver (α : Type) : Type := Prog UartIo UartIo.Answer α

/-- A read of a register. -/
def uartRead (r : UartReg) : UartDriver Word32 := .call (UartIo.read r)

/-- A write to a register. -/
def uartWrite (r : UartReg) (v : Word32) : UartDriver Unit := .call (UartIo.write r v)

/-- `UART8250_LSR_THRE` -/
def uart8250LsrThre : Word32 := 1#32 <<< 5

/-- `UART8250_LCR_DLAB` -/
def uart8250LcrDlab : Word32 := 0x1#32 <<< 7

/-- `UART8250_LCR_8BIT` -/
def uart8250Lcr8bit : Word32 := 0x3#32 <<< 0

/-- `uart_init` -/
def uartInit : UartDriver Unit := do
  let lcr ← uartRead .lcr
  uartWrite .lcr (lcr ||| uart8250LcrDlab)
  let lcr ← uartRead .lcr
  uartWrite .lcr (lcr &&& ~~~uart8250LcrDlab)
  uartWrite .lcr uart8250Lcr8bit
  uartWrite .ier 0#32
  uartWrite .mcr 0#32
  let _ ← uartRead .lsr
  uartWrite .msr 0#32

/-- The UART takes another character. -/
def threSet (lsr : Word32) : Bool := lsr &&& uart8250LsrThre != 0#32

/-- `uart_putc`. The character is sign-extended to the width of the register. -/
def uartPutc (c : Byte) : UartDriver Unit := do
  .waitFor (UartIo.read .lsr) threSet
  uartWrite .thr (c.signExtend 32)

/-! ## `retarget_qemu.c` -/

/-- `'\n'` -/
def newline : Byte := 0x0A#8

/-- `'\r'` -/
def carriageReturn : Byte := 0x0D#8

namespace Retarget

/-- The loop of `_write`, from index `i` on with `n` characters left. -/
def writeLoop (ptr : Nat → Byte) : Nat → Nat → UartDriver Unit
  | 0, _ => return
  | n + 1, i => do
    if ptr i = newline then
      uartPutc carriageReturn
    uartPutc (ptr i)
    writeLoop ptr n (i + 1)

/-- `_write`, of the `len` characters that `ptr` points to. With a negative length the loop makes no round. That the length is an
`int` is what a call of it says (`WriteCall`); the index of the loop then is one too. -/
def write (ptr : Nat → Byte) (len : Int) : UartDriver Int := do
  writeLoop ptr len.toNat 0
  return len

/-- `_init` -/
def init : UartDriver Unit := uartInit

end Retarget

/-- A call of `_write`. Its length is an `int` of 32 bits, so no call has a text of 2^31 characters or more. -/
structure WriteCall where
  ptr : Nat → Byte
  len : Int
  isInt : -0x80000000 ≤ len ∧ len < 0x80000000

/-- The characters that a call is to write. -/
def WriteCall.text (c : WriteCall) : List Byte := (List.range c.len.toNat).map c.ptr

/-- Calls of `_write`, one after the other. -/
def writeAll : List WriteCall → UartDriver (List Int)
  | [] => return []
  | c :: cs => do
    let r ← Retarget.write c.ptr c.len
    return r :: (← writeAll cs)

/-- The console of a program: `_init`, and then any calls of `_write`. -/
def console (cs : List WriteCall) : UartDriver (List Int) := do
  Retarget.init
  writeAll cs

/-! ## The UART -/

/-- The UART: its registers of eight bits, the divisor latch, the character that waits to be sent, and those that have been sent,
oldest first. -/
structure Uart where
  lcr : Byte
  ier : Byte
  dll : Byte
  dlh : Byte
  thr : Option Byte
  sent : List Byte
  deriving DecidableEq

namespace Uart

/-- The first two registers are those of the divisor latch. -/
def dlab (s : Uart) : Bool := s.lcr.getLsbD 7

/-- What the UART has taken so far: what it has sent, and what waits. -/
def taken (s : Uart) : List Byte := s.sent ++ s.thr.toList

/-- A write to a register. A character that still waits is lost when another one is written. -/
def write (s : Uart) : UartReg → Byte → Uart
  | .thr, v => if s.dlab then { s with dll := v } else { s with thr := some v }
  | .ier, v => if s.dlab then { s with dlh := v } else { s with ier := v }
  | .lcr, v => { s with lcr := v }
  | _, _ => s

/-- The UART. It may report late that it takes another character, and sends the one that waits when it gets to it. -/
def world : World UartIo UartIo.Answer Uart where
  sem
    | .read .lcr, s, r, s' => r.setWidth 8 = s.lcr ∧ s' = s
    | .read .lsr, s, r, s' => (threSet r = true → s.thr = none) ∧ s' = s
    | .read _, s, _, s' => s' = s
    | .write r v, s, _, s' => s' = s.write r (v.setWidth 8)
  env s s' := ∃ c, s.thr = some c ∧ s' = { s with thr := none, sent := s.sent ++ [c] }

/-- A UART that sends a character before it answers. -/
def step : (i : UartIo) → Uart → Option (i.Answer × Uart)
  | .read .lcr, s => some (s.lcr.setWidth 32, s)
  | .read .lsr, s => some (uart8250LsrThre, { s with thr := none, sent := s.taken })
  | .read _, s => some (0#32, s)
  | .write r v, s => some ((), s.write r (v.setWidth 8))

/-- A UART as a boot loader may have left it: set to a divisor, and with the divisor latch still open. -/
def open9600 : Uart := ⟨0x83#8, 0#8, 0x0C#8, 0#8, none, []⟩

end Uart

/-- The characters of a text as the UART gets them. -/
def crlf (text : List Byte) : List Byte := Marks.encode carriageReturn newline text

/-- The calls put the stream `w` out on a UART in state `s`: there is a run in which they return, and whenever they have returned,
the UART has taken `w`, whatever the interleaving was. -/
def PutOut (s : Uart) (cs : List WriteCall) (w : List Byte) : Prop :=
  (∃ rs t, Run Uart.world (console cs) s (.ret rs) t) ∧
    ∀ rs t, Run Uart.world (console cs) s (.ret rs) t → t.taken = w

end RvIommuTests
