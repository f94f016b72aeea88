/-!
# Powers

Every `2 ^ n` of the library is the core power.  Other libraries give numbers a second instance of
powers, equal to this one; a client that imports them still reads the same terms.
-/

namespace ScriptHost

attribute [scoped instance (1100)] instPowNat

-- An exponent that is a numeral has no type until the default instance gives it one.
attribute [default_instance 10001] instPowNat

end ScriptHost
