import BundleConfig.Unicode.Table

/-!
# Case folding

Simple case folding maps each character to one that stands for all its case
variants.  Two characters are equal up to case when they fold to the same.

The table lists runs, four words each: the first code, how many codes the run
has, how far they stand apart, and what folding adds to each.  An `n` before the
last number makes it negative.
-/

namespace BundleConfig

namespace Unicode

/-- The runs of the table, as written. -/
def foldRows : List String := [
  "65 26 1 32 181 1 1 775 192 23 1 32 216 7 1 32 256 24 2 1 306 3 2 1 313 8 2 1 330 23 2 1 376",
  "1 1 n121 377 3 2 1 383 1 1 n268 385 1 1 210 386 2 2 1 390 1 1 206 391 1 1 1 393 2 1 205 395",
  "1 1 1 398 1 1 79 399 1 1 202 400 1 1 203 401 1 1 1 403 1 1 205 404 1 1 207 406 1 1 211 407 1",
  "1 209 408 1 1 1 412 1 1 211 413 1 1 213 415 1 1 214 416 3 2 1 422 1 1 218 423 1 1 1 425 1 1",
  "218 428 1 1 1 430 1 1 218 431 1 1 1 433 2 1 217 435 2 2 1 439 1 1 219 440 1 1 1 444 1 1 1",
  "452 1 1 2 453 1 1 1 455 1 1 2 456 1 1 1 458 1 1 2 459 9 2 1 478 9 2 1 497 1 1 2 498 2 2 1",
  "502 1 1 n97 503 1 1 n56 504 20 2 1 544 1 1 n130 546 9 2 1 570 1 1 10795 571 1 1 1 573 1 1",
  "n163 574 1 1 10792 577 1 1 1 579 1 1 n195 580 1 1 69 581 1 1 71 582 5 2 1 837 1 1 116 880 2",
  "2 1 886 1 1 1 895 1 1 116 902 1 1 38 904 3 1 37 908 1 1 64 910 2 1 63 913 17 1 32 931 9 1 32",
  "962 1 1 1 975 1 1 8 976 1 1 n30 977 1 1 n25 981 1 1 n15 982 1 1 n22 984 12 2 1 1008 1 1 n54",
  "1009 1 1 n48 1012 1 1 n60 1013 1 1 n64 1015 1 1 1 1017 1 1 n7 1018 1 1 1 1021 3 1 n130 1024",
  "16 1 80 1040 32 1 32 1120 17 2 1 1162 27 2 1 1216 1 1 15 1217 7 2 1 1232 48 2 1 1329 38 1 48",
  "4256 38 1 7264 4295 1 1 7264 4301 1 1 7264 5112 6 1 n8 7296 1 1 n6222 7297 1 1 n6221 7298 1",
  "1 n6212 7299 2 1 n6210 7301 1 1 n6211 7302 1 1 n6204 7303 1 1 n6180 7304 1 1 35267 7305 1 1",
  "1 7312 43 1 n3008 7357 3 1 n3008 7680 75 2 1 7835 1 1 n58 7838 1 1 n7615 7840 48 2 1 7944 8",
  "1 n8 7960 6 1 n8 7976 8 1 n8 7992 8 1 n8 8008 6 1 n8 8025 4 2 n8 8040 8 1 n8 8072 8 1 n8",
  "8088 8 1 n8 8104 8 1 n8 8120 2 1 n8 8122 2 1 n74 8124 1 1 n9 8126 1 1 n7173 8136 4 1 n86",
  "8140 1 1 n9 8147 1 1 n7235 8152 2 1 n8 8154 2 1 n100 8163 1 1 n7219 8168 2 1 n8 8170 2 1",
  "n112 8172 1 1 n7 8184 2 1 n128 8186 2 1 n126 8188 1 1 n9 8486 1 1 n7517 8490 1 1 n8383 8491",
  "1 1 n8262 8498 1 1 28 8544 16 1 16 8579 1 1 1 9398 26 1 26 11264 48 1 48 11360 1 1 1 11362 1",
  "1 n10743 11363 1 1 n3814 11364 1 1 n10727 11367 3 2 1 11373 1 1 n10780 11374 1 1 n10749",
  "11375 1 1 n10783 11376 1 1 n10782 11378 1 1 1 11381 1 1 1 11390 2 1 n10815 11392 50 2 1",
  "11499 2 2 1 11506 1 1 1 42560 23 2 1 42624 14 2 1 42786 7 2 1 42802 31 2 1 42873 2 2 1 42877",
  "1 1 n35332 42878 5 2 1 42891 1 1 1 42893 1 1 n42280 42896 2 2 1 42902 10 2 1 42922 1 1",
  "n42308 42923 1 1 n42319 42924 1 1 n42315 42925 1 1 n42305 42926 1 1 n42308 42928 1 1 n42258",
  "42929 1 1 n42282 42930 1 1 n42261 42931 1 1 928 42932 8 2 1 42948 1 1 n48 42949 1 1 n42307",
  "42950 1 1 n35384 42951 2 2 1 42955 1 1 n42343 42956 1 1 1 42960 1 1 1 42966 3 2 1 42972 1 1",
  "n42561 42997 1 1 1 43888 80 1 n38864 64261 1 1 1 65313 26 1 32 66560 40 1 40 66736 36 1 40",
  "66928 11 1 39 66940 15 1 39 66956 7 1 39 66964 2 1 39 68736 51 1 64 68944 22 1 32 71840 32 1",
  "32 93760 32 1 32 125184 34 1 34"]

/-- Characters that fold alike, at equal distances. -/
structure FoldRun where
  /-- The first code. -/
  first : Nat
  /-- How many codes. -/
  count : Nat
  /-- How far apart. -/
  stride : Nat
  /-- What folding adds. -/
  shift : Int

/-- The number of a word with an `n` for its sign. -/
def signedCode : List Char → Int
  | 'n' :: digits => -(Text.digitsValue digits : Int)
  | digits => Text.digitsValue digits

/-- The runs of a list of words. -/
def foldRunsOf : List (List Char) → List FoldRun
  | first :: count :: stride :: shift :: rest =>
      ⟨Text.digitsValue first, Text.digitsValue count, Text.digitsValue stride, signedCode shift⟩ ::
        foldRunsOf rest
  | _ => []

/-- The codes of a run, each with the one it folds to. -/
def FoldRun.pairs (r : FoldRun) : List (Nat × Nat) :=
  (List.range r.count).map fun n =>
    let code := r.first + n * r.stride
    (code, ((code : Int) + r.shift).toNat)

/-- The codes that do not fold to themselves, each with the one it folds to. -/
def foldPairs : List (Nat × Nat) := (foldRunsOf (tableWords foldRows)).flatMap FoldRun.pairs

/-- The characters that do not fold to themselves. -/
def folding : CharSet := CharSet.ofCodes (foldPairs.map (·.1))

/-- The characters with case variants. -/
def withVariants : CharSet := folding.union (CharSet.ofCodes (foldPairs.map (·.2)))

/-- The set with the case variants of its characters. -/
def CharSet.fold (s : CharSet) : CharSet :=
  let targets := (foldPairs.filter fun (code, _) => s.containsCode code).map (·.2)
  let s := s.union (CharSet.ofCodes targets)
  let sources := (foldPairs.filter fun (_, target) => s.containsCode target).map (·.1)
  s.union (CharSet.ofCodes sources)

/-- The set with the other case of its ASCII letters. -/
def CharSet.foldAscii (s : CharSet) : CharSet :=
  let upper := (s.inter (CharSet.ofRange 65 90)).ranges.map fun r => ⟨r.first + 32, r.last + 32⟩
  let lower := (s.inter (CharSet.ofRange 97 122)).ranges.map fun r => ⟨r.first - 32, r.last - 32⟩
  CharSet.ofRanges (s.ranges ++ upper ++ lower)

end Unicode

end BundleConfig
