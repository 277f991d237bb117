import CrashCatcher.Lib.Utf8
import Mathlib.Data.Int.Order.Basic

namespace CrashCatcher.Lib.JavaString

def wrapInt (n : Int) : Int := n.bmod 4294967296

/-- The UTF-16 units of a character. -/
def units (c : Char) : List Nat :=
  if c.toNat < 0x10000 then [c.toNat]
  else [0xd800 + (c.toNat - 0x10000) / 0x400, 0xdc00 + (c.toNat - 0x10000) % 0x400]

def hashCode (text : Str) : Int := (text.flatMap units).foldl (fun hash unit => wrapInt (31 * hash + unit)) 0

example : hashCode "record".toList = -934908847 := by decide

end CrashCatcher.Lib.JavaString
