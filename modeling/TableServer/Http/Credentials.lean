import TableServer.Text.Utf8

/-! Credentials of a user, in letters, figures and two signs: three octets in four of them. -/
namespace TableServer.Credentials

def sextet (n : Nat) : Char :=
  if n < 26 then Char.ofNat (65 + n)
  else if n < 52 then Char.ofNat (71 + n)
  else if n < 62 then Char.ofNat (n - 4)
  else if n = 62 then '+'
  else '/'

/-- Writes octets; signs that stand for none fill the last four. -/
def encode : Text.Octets → List Char
  | a :: b :: c :: rest =>
      sextet (a.toNat / 4) :: sextet (a.toNat % 4 * 16 + b.toNat / 16) ::
        sextet (b.toNat % 16 * 4 + c.toNat / 64) :: sextet (c.toNat % 64) :: encode rest
  | [a, b] =>
      [sextet (a.toNat / 4), sextet (a.toNat % 4 * 16 + b.toNat / 16), sextet (b.toNat % 16 * 4),
        '=']
  | [a] => [sextet (a.toNat / 4), sextet (a.toNat % 4 * 16), '=', '=']
  | [] => []

def header (user password : String) : String :=
  "Basic " ++ String.ofList (encode (Text.encodeUtf8 (user ++ ":" ++ password)))

end TableServer.Credentials
