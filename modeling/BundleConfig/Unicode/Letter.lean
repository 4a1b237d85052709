import BundleConfig.Unicode.Derived

/-!
# Letters of names and printable characters

Which characters may stand in names, and which are printable, follows version
17.0 of Unicode.  The properties that patterns refer to are those of version
16.0.  What the later version added is listed here, and it took none back.

*Names* are the identifiers of expressions and the names of groups.  A character
is *printable* when it can be shown on its own.  Controls, separators other than
the blank and characters without a meaning of their own cannot, nor can those
that extend others.
-/

namespace BundleConfig

namespace Unicode

/-! ## Letters of names -/

/-- The alphabetic characters that version 17.0 added. -/
def addedLetters : CharSet := rangeTable [
  "88f c5c cdc a7ce-a7cf a7d2 a7d4 a7f1 10940-10959 10ec5-10ec7 10efa-10efb 11b60-11b67",
  "11db0-11ddb 16ea0-16eb8 16ebb-16ed3 16ff2-16ff6 187f8-187ff 18d09-18d1e 18d80-18df2",
  "1e6c0-1e6de 1e6e0-1e6f5 1e6fe-1e6ff 2b73a-2b73f 2cea2-2cead 323b0-33479"]

/-- The digits and other signs for numbers that version 17.0 added. -/
def addedNumbers : CharSet := rangeTable ["11de0-11de9 16ff4-16ff6"]

/-- The letters of names. -/
def nameLetters : CharSet := alphabetic.union addedLetters

/-- The digits and other signs for numbers of names. -/
def nameNumbers : CharSet := numeric.union addedNumbers

/-- Whether a character is alphabetic.  ASCII letters are known without the
table. -/
def isAlphabetic (c : Char) : Bool :=
  if c.toNat < 128 then c.isAlpha else nameLetters.contains c

/-- Whether a character is alphabetic or a sign for a number. -/
def isAlphanumeric (c : Char) : Bool :=
  if c.toNat < 128 then c.isAlphanum else nameLetters.contains c || nameNumbers.contains c

/-! ## Printable characters -/

/-- The characters that cannot be shown on their own in version 16.0. -/
def unprintable : CharSet :=
  (categories ["Cc", "Cf", "Cn", "Co", "Cs", "Zl", "Zp", "Zs"]).union graphemeExtend

/-- The printable characters that version 17.0 added. -/
def addedPrintable : CharSet := rangeTable [
  "88f c5c cdc 20c1 2b96 a7ce-a7cf a7d2 a7d4 a7f1 fbc3-fbd2 fd90-fd91 fdc8-fdce",
  "10940-10959 10ec5-10ec7 10ed0-10ed8 11b61 11b65 11b67 11db0-11ddb 11de0-11de9",
  "16ea0-16eb8 16ebb-16ed3 16ff2-16ff6 187f8-187ff 18d09-18d1e 18d80-18df2 1ccfa-1ccfc",
  "1ceba-1ced0 1cee0-1cef0 1e6c0-1e6de 1e6e0-1e6e2 1e6e4-1e6e5 1e6e7-1e6ed 1e6f0-1e6f4",
  "1e6fe-1e6ff 1f6d8 1f777-1f77a 1f8d0-1f8d8 1fa54-1fa57 1fa8a 1fa8e 1fac8 1facd 1faea",
  "1faef 1fbfa 2b73a-2b73f 2cea2-2cead 323b0-33479"]

/-- Whether a character is printable.  ASCII characters are known without the
tables. -/
def isPrintable (c : Char) : Bool :=
  if c.toNat < 128 then decide (32 ≤ c.toNat ∧ c.toNat < 127)
  else !unprintable.contains c || addedPrintable.contains c

end Unicode

end BundleConfig
