import AccountSecurity.Crypto.Sha1

/-!
# Keyed digests

`Hmac.sha1 key message` is the HMAC of a message over SHA-1, whose blocks have 64 bytes.
-/

namespace AccountSecurity.Hmac

/-- The key as one block: a long key is replaced by its digest, and zeros are added. -/
def blockKey (key : List UInt8) : List UInt8 :=
  let short := if 64 < key.length then Sha1.digest key else key
  short ++ List.replicate (64 - short.length) 0

/-- The keyed digest of a message. -/
def sha1 (key message : List UInt8) : List UInt8 :=
  let block := blockKey key
  let inner := Sha1.digest (block.map (· ^^^ 0x36) ++ message)
  Sha1.digest (block.map (· ^^^ 0x5C) ++ inner)

end AccountSecurity.Hmac
