/-!
Network addresses. An address of version 6 is eight groups of sixteen bits; it may name the scope in
which it is valid.
-/

namespace ClusterMdns

structure AddressV4 where
  a : UInt8
  b : UInt8
  c : UInt8
  d : UInt8
deriving DecidableEq, Repr

structure AddressV6 where
  groups : Vector UInt16 8
  scope : Option String
deriving DecidableEq, Repr

inductive Address where
  | v4 (a : AddressV4)
  | v6 (a : AddressV6)
deriving DecidableEq, Repr

namespace AddressV4

def octets (a : AddressV4) : List UInt8 :=
  [a.a, a.b, a.c, a.d]

/-- The two groups that hold the address at the end of one of version 6. -/
def groups (a : AddressV4) : List UInt16 :=
  [a.a.toUInt16 * 256 + a.b.toUInt16, a.c.toUInt16 * 256 + a.d.toUInt16]

def ofGroups (hi lo : UInt16) : AddressV4 :=
  ⟨(hi / 256).toUInt8, hi.toUInt8, (lo / 256).toUInt8, lo.toUInt8⟩

end AddressV4

namespace AddressV6

/-- The address of version 4 that this one stands for: five groups of zeros, one of ones, and the
address. A scope makes no difference. -/
def mapped? (a : AddressV6) : Option AddressV4 :=
  match a.groups.toList with
  | [0, 0, 0, 0, 0, 0xFFFF, hi, lo] => some (.ofGroups hi lo)
  | _ => none

end AddressV6

namespace Address

/-- An address of version 6 that stands for one of version 4 is published as the latter. -/
def normalize : Address → Address
  | v4 a => v4 a
  | v6 a => match a.mapped? with
    | some b => v4 b
    | none => v6 a

end Address

end ClusterMdns
