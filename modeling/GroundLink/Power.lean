/-!
# Powers

A power of natural numbers or integers is the one that the core library defines, whatever other
structures are in scope.
-/

attribute [instance (2000), default_instance 20000] instPowNat
