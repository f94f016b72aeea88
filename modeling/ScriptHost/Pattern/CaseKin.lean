/-!
# Letters with several lower cases

Some letters have one upper case and several lower cases.  When case is ignored they stand for one
another.
-/

namespace ScriptHost.Pattern

/-- Lower case letters with the other lower case letters of the same upper case. -/
def caseKinTable : Array (Nat × List Nat) :=
  #[
    (0x69, [0x131]), (0x73, [0x17f]), (0xb5, [0x3bc]), (0x131, [0x69]), (0x17f, [0x73]),
    (0x345, [0x3b9, 0x1fbe]), (0x390, [0x1fd3]), (0x3b0, [0x1fe3]), (0x3b2, [0x3d0]),
    (0x3b5, [0x3f5]), (0x3b8, [0x3d1]), (0x3b9, [0x345, 0x1fbe]), (0x3ba, [0x3f0]),
    (0x3bc, [0xb5]), (0x3c0, [0x3d6]), (0x3c1, [0x3f1]), (0x3c2, [0x3c3]), (0x3c3, [0x3c2]),
    (0x3c6, [0x3d5]), (0x3d0, [0x3b2]), (0x3d1, [0x3b8]), (0x3d5, [0x3c6]), (0x3d6, [0x3c0]),
    (0x3f0, [0x3ba]), (0x3f1, [0x3c1]), (0x3f5, [0x3b5]), (0x432, [0x1c80]), (0x434, [0x1c81]),
    (0x43e, [0x1c82]), (0x441, [0x1c83]), (0x442, [0x1c84, 0x1c85]), (0x44a, [0x1c86]),
    (0x463, [0x1c87]), (0x1c80, [0x432]), (0x1c81, [0x434]), (0x1c82, [0x43e]), (0x1c83, [0x441]),
    (0x1c84, [0x442, 0x1c85]), (0x1c85, [0x442, 0x1c84]), (0x1c86, [0x44a]), (0x1c87, [0x463]),
    (0x1c88, [0xa64b]), (0x1e61, [0x1e9b]), (0x1e9b, [0x1e61]), (0x1fbe, [0x345, 0x3b9]),
    (0x1fd3, [0x390]), (0x1fe3, [0x3b0]), (0xa64b, [0x1c88]), (0xfb05, [0xfb06]),
    (0xfb06, [0xfb05])]

/-- The other lower case letters that share the upper case of a lower case letter. -/
def caseKin (n : Nat) : List Nat :=
  ((caseKinTable.find? fun entry => entry.1 == n).map (·.2)).getD []

end ScriptHost.Pattern
