import Mathlib.Algebra.Order.Ring.Int
import Mathlib.Data.List.Basic

namespace Einsatzcockpit

/-- `str.isspace` of a single character. -/
def isSpace (c : Char) : Bool :=
  let n := c.toNat
  (9 ≤ n && n ≤ 13) || (28 ≤ n && n ≤ 32) || n == 0x85 || n == 0xA0 || n == 0x1680 ||
    (0x2000 ≤ n && n ≤ 0x200A) || n == 0x2028 || n == 0x2029 || n == 0x202F || n == 0x205F || n == 0x3000

/-- `str.strip()` -/
def strip (s : String) : String :=
  String.ofList ((s.toList.dropWhile isSpace).reverse.dropWhile isSpace).reverse

/-- `s[:n]` -/
def clip (n : Nat) (s : String) : String :=
  String.ofList (s.toList.take n)

/-- `str.split()` -/
def words (s : String) : List String :=
  ((s.toList.splitOnP isSpace).filter (· ≠ [])).map String.ofList

/-- `value or None` for a text. -/
def orNone (value : Option String) : Option String :=
  value.filter (· ≠ "")

abbrev Zeit := Int

/-- `timedelta(seconds=n)` -/
def sekunden (n : Int) : Zeit := n * 1000000

theorem sekunden_nonneg (n : Nat) : 0 ≤ sekunden n :=
  mul_nonneg (Int.natCast_nonneg n) (by decide)

def minuten (n : Int) : Zeit := sekunden (n * 60)

def stunden (n : Int) : Zeit := minuten (n * 60)

end Einsatzcockpit
