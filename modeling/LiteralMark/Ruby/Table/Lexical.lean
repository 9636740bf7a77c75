import LiteralMark.Ruby.Token
/-!
# Tokens that are looked for together

In a state more tokens are looked for than are expected, as long as none
of the others could be taken for an expected one: the text `=>` is one
token even where only `=` is expected. The sets of tokens that are looked
for together are listed here. A state looks for the first set that has
all tokens it expects and of which it expects the tokens named with it.
-/

namespace LiteralMark.Ruby

/-- The sets of tokens that are looked for together, each with the tokens
that tell it. -/
def lexicalSets : List (List Token × Nat) := [
  ([.interpolationLeft], 0x1f60399fbfffe7ff5c11f00005bf9ef3),
  ([.caretAssign, .thinArrow], 0x8fe03801bfffe3fffc11b800059f9e63),
  ([.tightParenLeft, .thinArrow], 0x8fe03801bfffe2000c11b800059f1e63),
  ([.character], 0x8fe03801a010000000113800001f1663),
  ([.tightParenLeft, .thinArrow], 0x8fe03801a01000000c019000041c1ab2),
  ([.safeDot, .thinArrow], 0x8fe03801a01000000c011000041c1ab2),
  ([.safeDot, .thinArrow], 0x8fe03801bfffe6000c113800049f1e63),
  ([.character], 0x8fe03801bfffe60000113800049f1663),
  ([.character], 0x8fe03801a01000000011100000381262),
  ([.character], 0x8fe03800201000000000300000159663),
  ([.character], 0x8fe03801bfffe3fffc11f800059f9e22),
  ([.identifierQuery], 0x80e038000010000000113000003d1663),
  ([.tightColon, .caretAssign], 0x8001fffe3fffc11a800058f8c63),
  ([.caretAssign], 0x8001fffe3fffc11e800058f9c63),
  ([.caretAssign], 0x8001fffe7fffc11a800048f8c62),
  ([.safeDot, .notMatching], 0x8001fffe2000c11a800058f0c63),
  ([.notMatching], 0x8001fffe60000112800048f0463),
  ([.notMatching], 0x8001fffe6000c11a800048f0c62),
  ([.tightParenLeft], 0xe008ff9eff80000011800004b20002),
  ([.tightAssign], 0x7e009ff9eff80000011000004b20002),
  ([.assign, .identifier], 0x800000000000000080000bf9e62),
  ([.assign], 0x8fe03801a010000000011000001c96b2),
  ([.assign], 0x800000000000001080001bf8662),
  ([.assign], 0x800000000000c00a00000058c63),
  ([.colons], 0x800000000000000e80001071c63),
  ([.safeDot], 0x800000000000c00a80000070c63),
  ([.tightAssign], 0x900000000000000000000050443),
  ([.tightAssign], 0x900000000000000000000bc9a02),
  ([.blanks, .escapeSequence], 0x70000800000000000000000000000000),
  ([.escapeSequence], 0x50000800000000000000000000000000),
  ([.blanks], 0x20000800000000000000000000000000),
  ([.data], 0x800000000000000000000000008),
  ([.identifier], 0x872038000010000000113800001f1663),
  ([.constant], 0x872038000010000000113800001f1663),
  ([], 0x8fe03801a010000000113800001f16f3),
  ([], 0x7e008ff9eff80000011000005b20202),
  ([], 0x800000000000001280001bf0663)]

/-- The tokens that are looked for where some are expected. Keywords are
found as identifiers. -/
def lookedFor (expected : TokenSet) : TokenSet :=
  let plain := (Token.endOfText :: Token.plain).filter fun t =>
    expected.contains t && !Token.keywords.contains t
  let word := if Token.keywords.any expected.contains then [.identifier] else []
  let wanted : TokenSet := .ofList (word ++ plain)
  match lexicalSets.find? fun (tell, set) =>
      tell.all wanted.contains && wanted.subset ⟨set⟩ with
  | some (_, set) => ⟨set⟩
  | none => wanted

end LiteralMark.Ruby
