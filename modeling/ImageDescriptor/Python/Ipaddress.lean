/-
# IP addresses

The address classes of the module `ipaddress` that the describer tests, with the networks
of Python 3.11.
-/
import Mathlib.Data.List.Basic
import Mathlib.Data.Nat.Notation

namespace ImageDescriptor

/-- An IPv4 or IPv6 address. -/
inductive IpAddress
  | v4 (a : BitVec 32)
  | v6 (a : BitVec 128)
deriving DecidableEq, Repr

namespace IpAddress

/-- A network: its address and the length of its mask. -/
structure Network where
  base : ℕ
  len : ℕ

/-- `address in network`, for addresses of `w` bits. -/
def Network.contains {w : ℕ} (n : Network) (a : BitVec w) : Bool :=
  decide (a.toNat >>> (w - n.len) = n.base >>> (w - n.len))

/-- The address of an IPv4 network in dotted notation. -/
def quad (a b c d len : ℕ) : Network := ⟨((a * 256 + b) * 256 + c) * 256 + d, len⟩

/-- The address of an IPv6 network from the first three groups and the last one. -/
def hextets (a b c last len : ℕ) : Network :=
  ⟨((a * 65536 + b) * 65536 + c) <<< 80 + last, len⟩

/-- `_IPv4Constants._private_networks`. -/
def privateNetworks4 : List Network :=
  [quad 0 0 0 0 8, quad 10 0 0 0 8, quad 127 0 0 0 8, quad 169 254 0 0 16, quad 172 16 0 0 12,
    quad 192 0 0 0 24, quad 192 0 0 170 31, quad 192 0 2 0 24, quad 192 168 0 0 16,
    quad 198 18 0 0 15, quad 198 51 100 0 24, quad 203 0 113 0 24, quad 240 0 0 0 4,
    quad 255 255 255 255 32]

/-- `_IPv4Constants._private_networks_exceptions`. -/
def privateExceptions4 : List Network := [quad 192 0 0 9 32, quad 192 0 0 10 32]

/-- `_IPv6Constants._private_networks`. -/
def privateNetworks6 : List Network :=
  [hextets 0 0 0 1 128, hextets 0 0 0 0 128, ⟨0xffff <<< 32, 96⟩, hextets 0x64 0xff9b 1 0 48,
    hextets 0x100 0 0 0 64, hextets 0x2001 0 0 0 23, hextets 0x2001 0xdb8 0 0 32,
    hextets 0x2002 0 0 0 16, hextets 0xfc00 0 0 0 7, hextets 0xfe80 0 0 0 10]

/-- `_IPv6Constants._private_networks_exceptions`. -/
def privateExceptions6 : List Network :=
  [hextets 0x2001 1 0 1 128, hextets 0x2001 1 0 2 128, hextets 0x2001 3 0 0 32,
    hextets 0x2001 4 0x112 0 48, hextets 0x2001 0x20 0 0 28, hextets 0x2001 0x30 0 0 28]

/-- `_IPv6Constants._reserved_networks`. -/
def reservedNetworks6 : List Network :=
  [hextets 0 0 0 0 8, hextets 0x100 0 0 0 8, hextets 0x200 0 0 0 7, hextets 0x400 0 0 0 6,
    hextets 0x800 0 0 0 5, hextets 0x1000 0 0 0 4, hextets 0x4000 0 0 0 3, hextets 0x6000 0 0 0 3,
    hextets 0x8000 0 0 0 3, hextets 0xa000 0 0 0 3, hextets 0xc000 0 0 0 3, hextets 0xe000 0 0 0 4,
    hextets 0xf000 0 0 0 5, hextets 0xf800 0 0 0 6, hextets 0xfe00 0 0 0 9]

/-- `ipv4_mapped`. -/
def ipv4Mapped (a : BitVec 128) : Option (BitVec 32) :=
  if a.toNat >>> 32 = 0xffff then some (BitVec.ofNat 32 a.toNat) else none

def isPrivate4 (a : BitVec 32) : Bool :=
  (privateNetworks4.any fun n => n.contains a) && !(privateExceptions4.any fun n => n.contains a)

/-- `is_private`. -/
def isPrivate : IpAddress → Bool
  | v4 a => isPrivate4 a
  | v6 a =>
    match ipv4Mapped a with
    | some b => isPrivate4 b
    | none =>
      (privateNetworks6.any fun n => n.contains a) &&
        !(privateExceptions6.any fun n => n.contains a)

/-- `is_loopback`. -/
def isLoopback : IpAddress → Bool
  | v4 a => (quad 127 0 0 0 8).contains a
  | v6 a => decide (a.toNat = 1)

/-- `is_link_local`. -/
def isLinkLocal : IpAddress → Bool
  | v4 a => (quad 169 254 0 0 16).contains a
  | v6 a => (hextets 0xfe80 0 0 0 10).contains a

/-- `is_reserved`. -/
def isReserved : IpAddress → Bool
  | v4 a => (quad 240 0 0 0 4).contains a
  | v6 a => reservedNetworks6.any fun n => n.contains a

/-- `is_multicast`. -/
def isMulticast : IpAddress → Bool
  | v4 a => (quad 224 0 0 0 4).contains a
  | v6 a => (hextets 0xff00 0 0 0 8).contains a

/-- The IPv4 address in dotted notation. -/
def ofQuad (a b c d : ℕ) : IpAddress := v4 (BitVec.ofNat 32 (((a * 256 + b) * 256 + c) * 256 + d))

end IpAddress

end ImageDescriptor
