import ClusterMdns.Text.Decomposition

/-!
Characters put together: a text is taken apart first, then every letter absorbs the marks behind it with
which it has a composed form. Texts that look alike become the same.
-/

namespace ClusterMdns.Text

/-- Pairs with a composed form: a first code point, and second points with what they make of it. -/
def compositionTable : String :=
  "3C 338=226E; 3D 338=2260; 3E 338=226F;
41 300=C0 301=C1 302=C2 303=C3 308=C4 30A=C5 304=100 306=102 328=104 30C=1CD 30F=200 311=202;
41 307=226 325=1E00 323=1EA0 309=1EA2; 42 307=1E02 323=1E04 331=1E06;
43 327=C7 301=106 302=108 307=10A 30C=10C;
44 30C=10E 307=1E0A 323=1E0C 331=1E0E 327=1E10 32D=1E12;
45 300=C8 301=C9 302=CA 308=CB 304=112 306=114 307=116 328=118 30C=11A 30F=204 311=206 327=228;
45 32D=1E18 330=1E1A 323=1EB8 309=1EBA 303=1EBC; 46 307=1E1E;
47 302=11C 306=11E 307=120 327=122 30C=1E6 301=1F4 304=1E20;
48 302=124 30C=21E 307=1E22 323=1E24 308=1E26 327=1E28 32E=1E2A;
49 300=CC 301=CD 302=CE 308=CF 303=128 304=12A 306=12C 328=12E 307=130 30C=1CF 30F=208 311=20A;
49 330=1E2C 309=1EC8 323=1ECA; 4A 302=134; 4B 327=136 30C=1E8 301=1E30 323=1E32 331=1E34;
4C 301=139 327=13B 30C=13D 323=1E36 331=1E3A 32D=1E3C; 4D 301=1E3E 307=1E40 323=1E42;
4E 303=D1 301=143 327=145 30C=147 300=1F8 307=1E44 323=1E46 331=1E48 32D=1E4A;
4F 300=D2 301=D3 302=D4 303=D5 308=D6 304=14C 306=14E 30B=150 31B=1A0 30C=1D1 328=1EA 30F=20C;
4F 311=20E 307=22E 323=1ECC 309=1ECE; 50 301=1E54 307=1E56;
52 301=154 327=156 30C=158 30F=210 311=212 307=1E58 323=1E5A 331=1E5E;
53 301=15A 302=15C 327=15E 30C=160 326=218 307=1E60 323=1E62;
54 327=162 30C=164 326=21A 307=1E6A 323=1E6C 331=1E6E 32D=1E70;
55 300=D9 301=DA 302=DB 308=DC 303=168 304=16A 306=16C 30A=16E 30B=170 328=172 31B=1AF 30C=1D3;
55 30F=214 311=216 324=1E72 330=1E74 32D=1E76 323=1EE4 309=1EE6; 56 303=1E7C 323=1E7E;
57 302=174 300=1E80 301=1E82 308=1E84 307=1E86 323=1E88; 58 307=1E8A 308=1E8C;
59 301=DD 302=176 308=178 304=232 307=1E8E 300=1EF2 323=1EF4 309=1EF6 303=1EF8;
5A 301=179 307=17B 30C=17D 302=1E90 323=1E92 331=1E94;
61 300=E0 301=E1 302=E2 303=E3 308=E4 30A=E5 304=101 306=103 328=105 30C=1CE 30F=201 311=203;
61 307=227 325=1E01 323=1EA1 309=1EA3; 62 307=1E03 323=1E05 331=1E07;
63 327=E7 301=107 302=109 307=10B 30C=10D;
64 30C=10F 307=1E0B 323=1E0D 331=1E0F 327=1E11 32D=1E13;
65 300=E8 301=E9 302=EA 308=EB 304=113 306=115 307=117 328=119 30C=11B 30F=205 311=207 327=229;
65 32D=1E19 330=1E1B 323=1EB9 309=1EBB 303=1EBD; 66 307=1E1F;
67 302=11D 306=11F 307=121 327=123 30C=1E7 301=1F5 304=1E21;
68 302=125 30C=21F 307=1E23 323=1E25 308=1E27 327=1E29 32E=1E2B 331=1E96;
69 300=EC 301=ED 302=EE 308=EF 303=129 304=12B 306=12D 328=12F 30C=1D0 30F=209 311=20B 330=1E2D;
69 309=1EC9 323=1ECB; 6A 302=135 30C=1F0; 6B 327=137 30C=1E9 301=1E31 323=1E33 331=1E35;
6C 301=13A 327=13C 30C=13E 323=1E37 331=1E3B 32D=1E3D; 6D 301=1E3F 307=1E41 323=1E43;
6E 303=F1 301=144 327=146 30C=148 300=1F9 307=1E45 323=1E47 331=1E49 32D=1E4B;
6F 300=F2 301=F3 302=F4 303=F5 308=F6 304=14D 306=14F 30B=151 31B=1A1 30C=1D2 328=1EB 30F=20D;
6F 311=20F 307=22F 323=1ECD 309=1ECF; 70 301=1E55 307=1E57;
72 301=155 327=157 30C=159 30F=211 311=213 307=1E59 323=1E5B 331=1E5F;
73 301=15B 302=15D 327=15F 30C=161 326=219 307=1E61 323=1E63;
74 327=163 30C=165 326=21B 307=1E6B 323=1E6D 331=1E6F 32D=1E71 308=1E97;
75 300=F9 301=FA 302=FB 308=FC 303=169 304=16B 306=16D 30A=16F 30B=171 328=173 31B=1B0 30C=1D4;
75 30F=215 311=217 324=1E73 330=1E75 32D=1E77 323=1EE5 309=1EE7; 76 303=1E7D 323=1E7F;
77 302=175 300=1E81 301=1E83 308=1E85 307=1E87 323=1E89 30A=1E98; 78 307=1E8B 308=1E8D;
79 301=FD 308=FF 302=177 304=233 307=1E8F 30A=1E99 300=1EF3 323=1EF5 309=1EF7 303=1EF9;
7A 301=17A 307=17C 30C=17E 302=1E91 323=1E93 331=1E95; C2 301=1EA4 300=1EA6 309=1EA8 303=1EAA;
C4 304=1DE; C5 301=1FA; C6 304=1E2 301=1FC; C7 301=1E08; CA 301=1EBE 300=1EC0 309=1EC2 303=1EC4;
CF 301=1E2E; D4 301=1ED0 300=1ED2 309=1ED4 303=1ED6; D5 304=22C 301=1E4C 308=1E4E; D6 304=22A;
D8 301=1FE; DC 304=1D5 301=1D7 30C=1D9 300=1DB; E2 301=1EA5 300=1EA7 309=1EA9 303=1EAB;
E4 304=1DF; E5 301=1FB; E6 304=1E3 301=1FD; E7 301=1E09; EA 301=1EBF 300=1EC1 309=1EC3 303=1EC5;
EF 301=1E2F; F4 301=1ED1 300=1ED3 309=1ED5 303=1ED7; F5 304=22D 301=1E4D 308=1E4F; F6 304=22B;
F8 301=1FF; FC 304=1D6 301=1D8 30C=1DA 300=1DC; 102 301=1EAE 300=1EB0 309=1EB2 303=1EB4;
103 301=1EAF 300=1EB1 309=1EB3 303=1EB5; 112 300=1E14 301=1E16; 113 300=1E15 301=1E17;
14C 300=1E50 301=1E52; 14D 300=1E51 301=1E53; 15A 307=1E64; 15B 307=1E65; 160 307=1E66;
161 307=1E67; 168 301=1E78; 169 301=1E79; 16A 308=1E7A; 16B 308=1E7B;
1A0 301=1EDA 300=1EDC 309=1EDE 303=1EE0 323=1EE2;
1A1 301=1EDB 300=1EDD 309=1EDF 303=1EE1 323=1EE3;
1AF 301=1EE8 300=1EEA 309=1EEC 303=1EEE 323=1EF0;
1B0 301=1EE9 300=1EEB 309=1EED 303=1EEF 323=1EF1; 1B7 30C=1EE; 1EA 304=1EC; 1EB 304=1ED;
226 304=1E0; 227 304=1E1; 228 306=1E1C; 229 306=1E1D; 22E 304=230; 22F 304=231; 292 30C=1EF;
391 301=386 313=1F08 314=1F09 306=1FB8 304=1FB9 300=1FBA 345=1FBC;
395 301=388 313=1F18 314=1F19 300=1FC8; 397 301=389 313=1F28 314=1F29 300=1FCA 345=1FCC;
399 301=38A 308=3AA 313=1F38 314=1F39 306=1FD8 304=1FD9 300=1FDA;
39F 301=38C 313=1F48 314=1F49 300=1FF8; 3A1 314=1FEC;
3A5 301=38E 308=3AB 314=1F59 306=1FE8 304=1FE9 300=1FEA;
3A9 301=38F 313=1F68 314=1F69 300=1FFA 345=1FFC; 3AC 345=1FB4; 3AE 345=1FC4;
3B1 301=3AC 313=1F00 314=1F01 300=1F70 306=1FB0 304=1FB1 345=1FB3 342=1FB6;
3B5 301=3AD 313=1F10 314=1F11 300=1F72; 3B7 301=3AE 313=1F20 314=1F21 300=1F74 345=1FC3 342=1FC6;
3B9 301=3AF 308=3CA 313=1F30 314=1F31 300=1F76 306=1FD0 304=1FD1 342=1FD6;
3BF 301=3CC 313=1F40 314=1F41 300=1F78; 3C1 313=1FE4 314=1FE5;
3C5 308=3CB 301=3CD 313=1F50 314=1F51 300=1F7A 306=1FE0 304=1FE1 342=1FE6;
3C9 301=3CE 313=1F60 314=1F61 300=1F7C 345=1FF3 342=1FF6; 3CA 301=390 300=1FD2 342=1FD7;
3CB 301=3B0 300=1FE2 342=1FE7; 3CE 345=1FF4; 406 308=407; 410 306=4D0 308=4D2; 413 301=403;
415 300=400 308=401 306=4D6; 416 306=4C1 308=4DC; 417 308=4DE;
418 300=40D 306=419 304=4E2 308=4E4; 41A 301=40C; 41E 308=4E6;
423 306=40E 304=4EE 308=4F0 30B=4F2; 427 308=4F4; 42B 308=4F8; 42D 308=4EC; 430 306=4D1 308=4D3;
433 301=453; 435 300=450 308=451 306=4D7; 436 306=4C2 308=4DD; 437 308=4DF;
438 306=439 300=45D 304=4E3 308=4E5; 43A 301=45C; 43E 308=4E7;
443 306=45E 304=4EF 308=4F1 30B=4F3; 447 308=4F5; 44B 308=4F9; 44D 308=4ED; 456 308=457;
474 30F=476; 475 30F=477; 4D8 308=4DA; 4D9 308=4DB; 4E8 308=4EA; 4E9 308=4EB;
627 653=622 654=623 655=625; 648 654=624; 64A 654=626; 6C1 654=6C2; 6D2 654=6D3; 6D5 654=6C0;
928 93C=929; 930 93C=931; 933 93C=934; 9C7 9BE=9CB 9D7=9CC; B47 B56=B48 B3E=B4B B57=B4C;
B92 BD7=B94; BC6 BBE=BCA BD7=BCC; BC7 BBE=BCB; C46 C56=C48; CBF CD5=CC0;
CC6 CD5=CC7 CD6=CC8 CC2=CCA; CCA CD5=CCB; D46 D3E=D4A D57=D4C; D47 D3E=D4B;
DD9 DCA=DDA DCF=DDC DDF=DDE; DDC DCA=DDD; 1025 102E=1026; 1B05 1B35=1B06; 1B07 1B35=1B08;
1B09 1B35=1B0A; 1B0B 1B35=1B0C; 1B0D 1B35=1B0E; 1B11 1B35=1B12; 1B3A 1B35=1B3B; 1B3C 1B35=1B3D;
1B3E 1B35=1B40; 1B3F 1B35=1B41; 1B42 1B35=1B43; 1E36 304=1E38; 1E37 304=1E39; 1E5A 304=1E5C;
1E5B 304=1E5D; 1E62 307=1E68; 1E63 307=1E69; 1EA0 302=1EAC 306=1EB6; 1EA1 302=1EAD 306=1EB7;
1EB8 302=1EC6; 1EB9 302=1EC7; 1ECC 302=1ED8; 1ECD 302=1ED9;
1F00 300=1F02 301=1F04 342=1F06 345=1F80; 1F01 300=1F03 301=1F05 342=1F07 345=1F81;
1F02 345=1F82; 1F03 345=1F83; 1F04 345=1F84; 1F05 345=1F85; 1F06 345=1F86; 1F07 345=1F87;
1F08 300=1F0A 301=1F0C 342=1F0E 345=1F88; 1F09 300=1F0B 301=1F0D 342=1F0F 345=1F89;
1F0A 345=1F8A; 1F0B 345=1F8B; 1F0C 345=1F8C; 1F0D 345=1F8D; 1F0E 345=1F8E; 1F0F 345=1F8F;
1F10 300=1F12 301=1F14; 1F11 300=1F13 301=1F15; 1F18 300=1F1A 301=1F1C; 1F19 300=1F1B 301=1F1D;
1F20 300=1F22 301=1F24 342=1F26 345=1F90; 1F21 300=1F23 301=1F25 342=1F27 345=1F91;
1F22 345=1F92; 1F23 345=1F93; 1F24 345=1F94; 1F25 345=1F95; 1F26 345=1F96; 1F27 345=1F97;
1F28 300=1F2A 301=1F2C 342=1F2E 345=1F98; 1F29 300=1F2B 301=1F2D 342=1F2F 345=1F99;
1F2A 345=1F9A; 1F2B 345=1F9B; 1F2C 345=1F9C; 1F2D 345=1F9D; 1F2E 345=1F9E; 1F2F 345=1F9F;
1F30 300=1F32 301=1F34 342=1F36; 1F31 300=1F33 301=1F35 342=1F37;
1F38 300=1F3A 301=1F3C 342=1F3E; 1F39 300=1F3B 301=1F3D 342=1F3F; 1F40 300=1F42 301=1F44;
1F41 300=1F43 301=1F45; 1F48 300=1F4A 301=1F4C; 1F49 300=1F4B 301=1F4D;
1F50 300=1F52 301=1F54 342=1F56; 1F51 300=1F53 301=1F55 342=1F57;
1F59 300=1F5B 301=1F5D 342=1F5F; 1F60 300=1F62 301=1F64 342=1F66 345=1FA0;
1F61 300=1F63 301=1F65 342=1F67 345=1FA1; 1F62 345=1FA2; 1F63 345=1FA3; 1F64 345=1FA4;
1F65 345=1FA5; 1F66 345=1FA6; 1F67 345=1FA7; 1F68 300=1F6A 301=1F6C 342=1F6E 345=1FA8;
1F69 300=1F6B 301=1F6D 342=1F6F 345=1FA9; 1F6A 345=1FAA; 1F6B 345=1FAB; 1F6C 345=1FAC;
1F6D 345=1FAD; 1F6E 345=1FAE; 1F6F 345=1FAF; 1F70 345=1FB2; 1F74 345=1FC2; 1F7C 345=1FF2;
1FB6 345=1FB7; 1FC6 345=1FC7; 1FF6 345=1FF7; 2190 338=219A; 2192 338=219B; 2194 338=21AE;
21D0 338=21CD; 21D2 338=21CF; 21D4 338=21CE; 2203 338=2204; 2208 338=2209; 220B 338=220C;
2223 338=2224; 2225 338=2226; 223C 338=2241; 2243 338=2244; 2245 338=2247; 2248 338=2249;
224D 338=226D; 2261 338=2262; 2264 338=2270; 2265 338=2271; 2272 338=2274; 2273 338=2275;
2276 338=2278; 2277 338=2279; 227A 338=2280; 227B 338=2281; 227C 338=22E0; 227D 338=22E1;
2282 338=2284; 2283 338=2285; 2286 338=2288; 2287 338=2289; 2291 338=22E2; 2292 338=22E3;
22A2 338=22AC; 22A8 338=22AD; 22A9 338=22AE; 22AB 338=22AF; 22B2 338=22EA; 22B3 338=22EB;
22B4 338=22EC; 22B5 338=22ED; 3046 3099=3094; 304B 3099=304C; 304D 3099=304E; 304F 3099=3050;
3051 3099=3052; 3053 3099=3054; 3055 3099=3056; 3057 3099=3058; 3059 3099=305A; 305B 3099=305C;
305D 3099=305E; 305F 3099=3060; 3061 3099=3062; 3064 3099=3065; 3066 3099=3067; 3068 3099=3069;
306F 3099=3070 309A=3071; 3072 3099=3073 309A=3074; 3075 3099=3076 309A=3077;
3078 3099=3079 309A=307A; 307B 3099=307C 309A=307D; 309D 3099=309E; 30A6 3099=30F4;
30AB 3099=30AC; 30AD 3099=30AE; 30AF 3099=30B0; 30B1 3099=30B2; 30B3 3099=30B4; 30B5 3099=30B6;
30B7 3099=30B8; 30B9 3099=30BA; 30BB 3099=30BC; 30BD 3099=30BE; 30BF 3099=30C0; 30C1 3099=30C2;
30C4 3099=30C5; 30C6 3099=30C7; 30C8 3099=30C9; 30CF 3099=30D0 309A=30D1;
30D2 3099=30D3 309A=30D4; 30D5 3099=30D6 309A=30D7; 30D8 3099=30D9 309A=30DA;
30DB 3099=30DC 309A=30DD; 30EF 3099=30F7; 30F0 3099=30F8; 30F1 3099=30F9; 30F2 3099=30FA;
30FD 3099=30FE; 11099 110BA=1109A; 1109B 110BA=1109C; 110A5 110BA=110AB; 11131 11127=1112E;
11132 11127=1112F; 11347 1133E=1134B 11357=1134C; 114B9 114BA=114BB 114B0=114BC 114BD=114BE;
115B8 115AF=115BA; 115B9 115AF=115BB; 11935 11930=11938"

structure CompositionRun where
  first : Nat
  composites : List (Nat × Nat)

namespace CompositionRun

def pair? (cs : List Char) : Option (Nat × Nat) :=
  match splitChars (· == '=') cs with
  | [second, composite] => some (Mapping.number second, Mapping.number composite)
  | _ => none

def ofText? (cs : List Char) : Option CompositionRun :=
  match Mapping.words cs with
  | [] => none
  | first :: rest => some ⟨Mapping.number first, rest.filterMap pair?⟩

end CompositionRun

def compositions : List CompositionRun :=
  (splitChars (· == ';') compositionTable.toList).filterMap CompositionRun.ofText?

/-- The composed form of two code points. -/
def composite? (a b : Nat) : Option Nat :=
  (Hangul.join? a b).orElse fun _ =>
    compositions.findSome? fun r =>
      if r.first == a then (r.composites.find? (·.1 == b)).map (·.2) else none

/-- A letter and what follows it, of which it absorbs what it can. A mark is out of reach behind another
of its class or of a higher one, `lastClass`, and everything is behind a letter. -/
def absorb (base lastClass : Nat) : List Nat → Nat × List Nat
  | [] => (base, [])
  | n :: rest =>
    let c := markClass n
    if lastClass != 0 && c == 0 then (base, n :: rest)
    else if lastClass != 0 && c <= lastClass then
      let (base, left) := absorb base lastClass rest
      (base, n :: left)
    else match composite? base n with
      | some joined => absorb joined lastClass rest
      | none =>
        if c == 0 then (base, n :: rest)
        else
          let (base, left) := absorb base c rest
          (base, n :: left)

theorem absorb_length_le (base lastClass : Nat) (ns : List Nat) :
    (absorb base lastClass ns).2.length ≤ ns.length := by
  induction ns generalizing base lastClass with
  | nil => simp [absorb]
  | cons n rest ih =>
    have step := fun b c => Nat.le_succ_of_le (ih b c)
    simp only [absorb]
    split
    · simp
    · split
      · simpa using ih base lastClass
      · split
        · simpa using step _ _
        · split
          · simp
          · simpa using ih base _

def compose : List Nat → List Nat
  | [] => []
  | n :: rest =>
    let absorbed := absorb n 0 rest
    absorbed.1 :: compose absorbed.2
termination_by ns => ns.length
decreasing_by exact Nat.lt_succ_of_le (absorb_length_le n 0 rest)

/-- The composed form of a text, with compatible characters replaced. -/
def normalize (ns : List Nat) : List Nat :=
  compose (decompose ns)

end ClusterMdns.Text
