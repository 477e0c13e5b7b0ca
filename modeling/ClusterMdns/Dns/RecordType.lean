import ClusterMdns.Number.Decimal

/-!
Types of resource records: their codes and their names. A type without a name is written `TYPE` and its
code.
-/

namespace ClusterMdns.Dns.RecordType

def names : List (Nat × String) :=
  [(1, "A"), (2, "NS"), (5, "CNAME"), (6, "SOA"), (10, "NULL"), (12, "PTR"), (13, "HINFO"),
   (15, "MX"), (16, "TXT"), (17, "RP"), (18, "AFSDB"), (24, "SIG"), (25, "KEY"), (28, "AAAA"),
   (29, "LOC"), (33, "SRV"), (35, "NAPTR"), (36, "KX"), (37, "CERT"), (38, "A6"), (39, "DNAME"),
   (41, "OPT"), (42, "APL"), (43, "DS"), (44, "SSHFP"), (45, "IPSECKEY"), (46, "RRSIG"),
   (47, "NSEC"), (48, "DNSKEY"), (49, "DHCID"), (50, "NSEC3"), (51, "NSEC3PARAM"), (52, "TLSA"),
   (55, "HIP"), (59, "CDS"), (60, "CDNSKEY"), (61, "OPENPGPKEY"), (62, "CSYNC"),
   (63, "ZONEMD"), (64, "SVCB"), (65, "HTTPS"), (99, "SPF"), (108, "EUI48"), (109, "EUI64"),
   (249, "TKEY"), (250, "TSIG"), (251, "IXFR"), (252, "AXFR"), (255, "ANY"), (256, "URI"),
   (257, "CAA"), (32768, "TA"), (32769, "DLV")]

/-- What stands before the code of a type that is written by its code. -/
def codeMark : String := "TYPE"

def name (code : Nat) : String :=
  match names.find? (·.1 == code) with
  | some (_, s) => s
  | none => codeMark ++ Number.natText code

/-- The code of a type that is given by name or by code. -/
def code? (s : String) : Option UInt16 :=
  match names.find? (·.2 == s) with
  | some (n, _) => some n.toUInt16
  | none =>
    if codeMark.toList.isPrefixOf s.toList then
      match Number.readInt? (String.ofList (s.toList.drop codeMark.length)) with
      | some n => if 0 <= n && n < 65536 then some n.toNat.toUInt16 else none
      | none => none
    else none

end ClusterMdns.Dns.RecordType
