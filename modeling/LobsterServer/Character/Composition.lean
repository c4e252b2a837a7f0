import LobsterServer.Character.Mark

set_option autoImplicit false

/-!
# Composed characters

A letter with marks can be written as one character or as several.  The composed form of a text
takes the fewest: it takes every character apart, brings the marks in order, and puts together what
has a character of its own.
-/

namespace LobsterServer.Character

/-- A character that stands for two others in a row. -/
structure Composite where
  whole : Char
  first : Char
  second : Char
  deriving DecidableEq, Repr

/-- Composites with one second character, from pairs of numbers: the whole and the first. -/
def compositesWith (second : Nat) : List Nat → List Composite
  | whole :: first :: rest =>
    ⟨Char.ofNat whole, Char.ofNat first, Char.ofNat second⟩ :: compositesWith second rest
  | _ => []

/-- Reads a table of composites; a row starts with the second character that all of it share. -/
def readComposites (rows : List String) : List Composite :=
  rows.flatMap fun row =>
    match numbers row with
    | second :: rest => compositesWith second rest
    | [] => []

/-- The composites that a domain may have. -/
def composites : List Composite :=
  readComposites
    ["300 e0 61 e8 65 ec 69 f2 6f f9 75 1dc fc 1f9 6e 450 435 45d 438 1e15 113 1e51 14d 1e81 77",
     "300 1ea7 e2 1eb1 103 1ec1 ea 1ed3 f4 1edd 1a1 1eeb 1b0 1ef3 79 1f02 1f00 1f03 1f01 1f12 1f10",
     "300 1f13 1f11 1f22 1f20 1f23 1f21 1f32 1f30 1f33 1f31 1f42 1f40 1f43 1f41 1f52 1f50",
     "300 1f53 1f51 1f62 1f60 1f63 1f61 1f70 3b1 1f72 3b5 1f74 3b7 1f76 3b9 1f78 3bf 1f7a 3c5",
     "300 1f7c 3c9 1fd2 3ca 1fe2 3cb",
     "301 e1 61 e9 65 ed 69 f3 6f fa 75 fd 79 107 63 13a 6c 144 6e 155 72 15b 73 17a 7a 1d8 fc",
     "301 1f5 67 1fb e5 1fd e6 1ff f8 390 3ca 3ac 3b1 3ad 3b5 3ae 3b7 3af 3b9 3b0 3cb 3cc 3bf",
     "301 3cd 3c5 3ce 3c9 453 433 45c 43a 1e09 e7 1e17 113 1e2f ef 1e31 6b 1e3f 6d 1e4d f5",
     "301 1e53 14d 1e55 70 1e79 169 1e83 77 1ea5 e2 1eaf 103 1ebf ea 1ed1 f4 1edb 1a1 1ee9 1b0",
     "301 1f04 1f00 1f05 1f01 1f14 1f10 1f15 1f11 1f24 1f20 1f25 1f21 1f34 1f30 1f35 1f31",
     "301 1f44 1f40 1f45 1f41 1f54 1f50 1f55 1f51 1f64 1f60 1f65 1f61",
     "302 e2 61 ea 65 ee 69 f4 6f fb 75 109 63 11d 67 125 68 135 6a 15d 73 175 77 177 79 1e91 7a",
     "302 1ead 1ea1 1ec7 1eb9 1ed9 1ecd",
     "303 e3 61 f1 6e f5 6f 129 69 169 75 1e7d 76 1eab e2 1eb5 103 1ebd 65 1ec5 ea 1ed7 f4",
     "303 1ee1 1a1 1eef 1b0 1ef9 79",
     "304 101 61 113 65 12b 69 14d 6f 16b 75 1d6 fc 1df e4 1e1 227 1e3 e6 1ed 1eb 22b f6 22d f5",
     "304 231 22f 233 79 4e3 438 4ef 443 1e21 67 1e39 1e37 1e5d 1e5b 1fb1 3b1 1fd1 3b9 1fe1 3c5",
     "306 103 61 115 65 11f 67 12d 69 14f 6f 16d 75 439 438 45e 443 4c2 436 4d1 430 4d7 435",
     "306 1e1d 229 1eb7 1ea1 1fb0 3b1 1fd0 3b9 1fe0 3c5",
     "307 10b 63 117 65 121 67 17c 7a 227 61 22f 6f 1e03 62 1e0b 64 1e1f 66 1e23 68 1e41 6d",
     "307 1e45 6e 1e57 70 1e59 72 1e61 73 1e65 15b 1e67 161 1e69 1e63 1e6b 74 1e87 77 1e8b 78",
     "307 1e8f 79 105c9 105d2 105e4 105da",
     "308 e4 61 eb 65 ef 69 f6 6f fc 75 ff 79 3ca 3b9 3cb 3c5 451 435 457 456 4d3 430 4db 4d9",
     "308 4dd 436 4df 437 4e5 438 4e7 43e 4eb 4e9 4ed 44d 4f1 443 4f5 447 4f9 44b 1e27 68 1e4f f5",
     "308 1e7b 16b 1e85 77 1e8d 78 1e97 74",
     "309 1ea3 61 1ea9 e2 1eb3 103 1ebb 65 1ec3 ea 1ec9 69 1ecf 6f 1ed5 f4 1edf 1a1 1ee7 75",
     "309 1eed 1b0 1ef7 79",
     "30a e5 61 16f 75 1e98 77 1e99 79",
     "30b 151 6f 171 75 4f3 443",
     "30c 10d 63 10f 64 11b 65 13e 6c 148 6e 159 72 161 73 165 74 17e 7a 1ce 61 1d0 69 1d2 6f",
     "30c 1d4 75 1da fc 1e7 67 1e9 6b 1ef 292 1f0 6a 21f 68",
     "30f 201 61 205 65 209 69 20d 6f 211 72 215 75 477 475",
     "311 203 61 207 65 20b 69 20f 6f 213 72 217 75",
     "313 1f00 3b1 1f10 3b5 1f20 3b7 1f30 3b9 1f40 3bf 1f50 3c5 1f60 3c9 1fe4 3c1",
     "314 1f01 3b1 1f11 3b5 1f21 3b7 1f31 3b9 1f41 3bf 1f51 3c5 1f61 3c9 1fe5 3c1",
     "31b 1a1 6f 1b0 75",
     "323 1e05 62 1e0d 64 1e25 68 1e33 6b 1e37 6c 1e43 6d 1e47 6e 1e5b 72 1e63 73 1e6d 74 1e7f 76",
     "323 1e89 77 1e93 7a 1ea1 61 1eb9 65 1ecb 69 1ecd 6f 1ee3 1a1 1ee5 75 1ef1 1b0 1ef5 79",
     "324 1e73 75",
     "325 1e01 61",
     "326 219 73 21b 74",
     "327 e7 63 123 67 137 6b 13c 6c 146 6e 157 72 15f 73 163 74 229 65 1e11 64 1e29 68",
     "328 105 61 119 65 12f 69 173 75 1eb 6f",
     "32d 1e13 64 1e19 65 1e3d 6c 1e4b 6e 1e71 74 1e77 75",
     "32e 1e2b 68",
     "330 1e1b 65 1e2d 69 1e75 75",
     "331 1e07 62 1e0f 64 1e35 6b 1e3b 6c 1e49 6e 1e5f 72 1e6f 74 1e95 7a 1e96 68",
     "338 219a 2190 219b 2192 21ae 2194 21cd 21d0 21ce 21d4 21cf 21d2 2204 2203 2209 2208",
     "338 220c 220b 2224 2223 2226 2225 2241 223c 2244 2243 2247 2245 2249 2248 2260 3d 2262 2261",
     "338 226d 224d 226e 3c 226f 3e 2270 2264 2271 2265 2274 2272 2275 2273 2278 2276 2279 2277",
     "338 2280 227a 2281 227b 2284 2282 2285 2283 2288 2286 2289 2287 22ac 22a2 22ad 22a8",
     "338 22ae 22a9 22af 22ab 22e0 227c 22e1 227d 22e2 2291 22e3 2292 22ea 22b2 22eb 22b3",
     "338 22ec 22b4 22ed 22b5",
     "342 1f06 1f00 1f07 1f01 1f26 1f20 1f27 1f21 1f36 1f30 1f37 1f31 1f56 1f50 1f57 1f51",
     "342 1f66 1f60 1f67 1f61 1fb6 3b1 1fc6 3b7 1fd6 3b9 1fd7 3ca 1fe6 3c5 1fe7 3cb 1ff6 3c9",
     "653 622 627",
     "654 623 627 624 648 626 64a 6c0 6d5 6c2 6c1 6d3 6d2",
     "655 625 627",
     "93c 929 928 931 930 934 933",
     "9be 9cb 9c7",
     "9d7 9cc 9c7",
     "b3e b4b b47",
     "b56 b48 b47",
     "b57 b4c b47",
     "bbe bca bc6 bcb bc7",
     "bd7 b94 b92 bcc bc6",
     "c56 c48 c46",
     "cc2 cca cc6",
     "cd5 cc0 cbf cc7 cc6 ccb cca",
     "cd6 cc8 cc6",
     "d3e d4a d46 d4b d47",
     "d57 d4c d46",
     "dca dda dd9 ddd ddc",
     "dcf ddc dd9",
     "ddf dde dd9",
     "102e 1026 1025",
     "1b35 1b06 1b05 1b08 1b07 1b0a 1b09 1b0c 1b0b 1b0e 1b0d 1b12 1b11 1b3b 1b3a 1b3d 1b3c",
     "1b35 1b40 1b3e 1b41 1b3f 1b43 1b42",
     "3099 304c 304b 304e 304d 3050 304f 3052 3051 3054 3053 3056 3055 3058 3057 305a 3059",
     "3099 305c 305b 305e 305d 3060 305f 3062 3061 3065 3064 3067 3066 3069 3068 3070 306f",
     "3099 3073 3072 3076 3075 3079 3078 307c 307b 3094 3046 309e 309d 30ac 30ab 30ae 30ad",
     "3099 30b0 30af 30b2 30b1 30b4 30b3 30b6 30b5 30b8 30b7 30ba 30b9 30bc 30bb 30be 30bd",
     "3099 30c0 30bf 30c2 30c1 30c5 30c4 30c7 30c6 30c9 30c8 30d0 30cf 30d3 30d2 30d6 30d5",
     "3099 30d9 30d8 30dc 30db 30f4 30a6 30f7 30ef 30f8 30f0 30f9 30f1 30fa 30f2 30fe 30fd",
     "309a 3071 306f 3074 3072 3077 3075 307a 3078 307d 307b 30d1 30cf 30d4 30d2 30d7 30d5",
     "309a 30da 30d8 30dd 30db",
     "110ba 1109a 11099 1109c 1109b 110ab 110a5",
     "11127 1112e 11131 1112f 11132",
     "1133e 1134b 11347",
     "11357 1134c 11347",
     "113b8 113c7 113c2",
     "113bb 11385 11384",
     "113c2 1138e 1138b 113c5 113c2",
     "113c9 11383 11382 11391 11390 113c8 113c2",
     "114b0 114bc 114b9",
     "114ba 114bb 114b9",
     "114bd 114be 114b9",
     "115af 115ba 115b8 115bb 115b9",
     "11930 11938 11935",
     "1611e 16121 1611e",
     "1611f 16123 1611e 16124 16129 16126 16121 16127 16122",
     "16120 16125 1611e 16128 16121",
     "16129 16122 1611e",
     "16d67 16d68 16d67 16d69 16d63 16d6a 16d69"]

/-! ## Syllables of Hangul

A syllable is composed of a leading consonant, a vowel, and at most one trailing consonant; the
syllables are numbered in the order of their parts. -/

/-- The parts of a syllable. -/
def syllableParts (c : Char) : Text :=
  let n := c.toNat - 0xAC00
  let front := [Char.ofNat (0x1100 + n / 588), Char.ofNat (0x1161 + n % 588 / 28)]
  if n % 28 = 0 then front else front ++ [Char.ofNat (0x11A7 + n % 28)]

/-- The syllable of two parts: a consonant and a vowel, or a syllable without a trailing consonant
and that consonant. -/
def syllable? (a b : Char) : Option Char :=
  if 0x1100 ≤ a.toNat ∧ a.toNat < 0x1113 ∧ 0x1161 ≤ b.toNat ∧ b.toNat < 0x1176 then
    some (Char.ofNat (0xAC00 + (a.toNat - 0x1100) * 588 + (b.toNat - 0x1161) * 28))
  else if 0xAC00 ≤ a.toNat ∧ a.toNat ≤ 0xD7A3 ∧ (a.toNat - 0xAC00) % 28 = 0
      ∧ 0x11A7 < b.toNat ∧ b.toNat < 0x11C3 then
    some (Char.ofNat (a.toNat + (b.toNat - 0x11A7)))
  else none

/-! ## Taking apart and putting together -/

/-- A character in its smallest parts.  `fuel` bounds how often the first part is taken apart
again. -/
def parts (fuel : Nat) (c : Char) : Text :=
  if c.toNat < 0xC0 then [c]
  else if 0xAC00 ≤ c.toNat ∧ c.toNat ≤ 0xD7A3 then syllableParts c
  else
    match fuel, composites.find? fun p => p.whole = c with
    | fuel + 1, some p => parts fuel p.first ++ [p.second]
    | _, _ => [c]

/-- Puts a mark behind those of smaller classes that follow it. -/
def insertMark (c : Char) : Text → Text
  | d :: rest =>
    if 0 < markClass d ∧ markClass d < markClass c then d :: insertMark c rest else c :: d :: rest
  | [] => [c]

/-- Orders marks in a row by their classes. -/
def orderMarks (t : Text) : Text := t.foldr insertMark []

/-- The composite of two characters. -/
def composite? (a b : Char) : Option Char :=
  if b.toNat < 0x300 then none
  else
    (syllable? a b).or
      ((composites.find? fun p => p.first = a && p.second = b).map Composite.whole)

/-- What has been put together: the text in front of the last character that is no mark, that
character, and the marks behind it, where the last is at the front of each text. -/
structure Assembly where
  done : Text
  base : Option Char
  marks : Text

/-- The text of an assembly, the last character at the front. -/
def Assembly.reversed (a : Assembly) : Text := a.marks ++ a.base.toList ++ a.done

/-- Puts in one more character.  It joins the base unless a mark of its class or a greater one
stands between them. -/
def Assembly.add (a : Assembly) (c : Char) : Assembly :=
  let isClear := (a.marks.head?.map fun m => decide (markClass m < markClass c)).getD true
  match if isClear then a.base.bind fun base => composite? base c else none with
  | some whole => { a with base := some whole }
  | none =>
    if markClass c = 0 then ⟨a.reversed, some c, []⟩ else { a with marks := c :: a.marks }

/-- The composed form of a text: every character is taken apart, marks are ordered, and what has a
composite is put together. -/
def composed (t : Text) : Text :=
  (((orderMarks (t.flatMap (parts 8))).foldl Assembly.add ⟨[], none, []⟩).reversed).reverse

end LobsterServer.Character
