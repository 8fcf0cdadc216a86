/-!
# Reading UTF-8

A document is a sequence of bytes. It is read as UTF-8; bytes that are not UTF-8 do no harm: each
longest run that begins a well-formed sequence without completing it, and each byte that cannot
begin one, is read as one replacement character.
-/

namespace SchemaPatch.Utf8

/-- The character that stands for bytes that are not UTF-8. -/
def replacement : Char := '\ufffd'

/-- The six bits that a continuation byte carries. -/
def payload (b : UInt8) : Nat := b.toNat % 0x40

/-- Whether a byte lies between two others. -/
def within (lo hi b : UInt8) : Bool := lo ≤ b && b ≤ hi

/-- Whether a byte continues a sequence. -/
def continues (b : UInt8) : Bool := within 0x80 0xbf b

/-- The second bytes that may follow a lead byte: some leads bar those that would spell a code point
in too many bytes, a surrogate, or a code point beyond the last one. -/
def second (lead b : UInt8) : Bool :=
  if lead = 0xe0 then within 0xa0 0xbf b
  else if lead = 0xed then within 0x80 0x9f b
  else if lead = 0xf0 then within 0x90 0xbf b
  else if lead = 0xf4 then within 0x80 0x8f b
  else continues b

/-- The first character of the bytes `lead :: rest`, and how many bytes of `rest` belong to it. -/
def first (lead : UInt8) (rest : List UInt8) : Char × Nat :=
  if lead < 0x80 then (Char.ofNat lead.toNat, 0)
  else if within 0xc2 0xdf lead then
    match rest with
    | b :: _ =>
      if continues b then (Char.ofNat ((lead.toNat - 0xc0) * 0x40 + payload b), 1)
      else (replacement, 0)
    | [] => (replacement, 0)
  else if within 0xe0 0xef lead then
    match rest with
    | b :: rest =>
      if second lead b then
        match rest with
        | c :: _ =>
          if continues c then
            (Char.ofNat (((lead.toNat - 0xe0) * 0x40 + payload b) * 0x40 + payload c), 2)
          else (replacement, 1)
        | [] => (replacement, 1)
      else (replacement, 0)
    | [] => (replacement, 0)
  else if within 0xf0 0xf4 lead then
    match rest with
    | b :: rest =>
      if second lead b then
        match rest with
        | c :: rest =>
          if continues c then
            match rest with
            | d :: _ =>
              if continues d then
                (Char.ofNat ((((lead.toNat - 0xf0) * 0x40 + payload b) * 0x40 + payload c) * 0x40
                  + payload d), 3)
              else (replacement, 2)
            | [] => (replacement, 2)
          else (replacement, 1)
        | [] => (replacement, 1)
      else (replacement, 0)
    | [] => (replacement, 0)
  else (replacement, 0)

/-- The characters of a sequence of bytes. -/
def decode : List UInt8 → List Char
  | [] => []
  | b :: bs => (first b bs).1 :: decode (bs.drop (first b bs).2)
termination_by bs => bs.length
decreasing_by simp only [List.length_drop, List.length_cons]; omega

end SchemaPatch.Utf8
