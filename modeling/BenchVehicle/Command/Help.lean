import BenchVehicle.Hardware.UserHal

/-!
# Help texts

What the commands say about themselves.
-/

namespace BenchVehicle.Help

/-- The commands that make up data. -/
def fakeData : String :=
  "\nGenerate Fake Data Usage:\n"
    ++ "--genfakedata --startlinear [propID] [mValue] [cValue] [dispersion] [increment] [interval]:\n"
    ++ "Start a linear generator that generates event with floatValue within range:\n"
    ++ "[mValue - disperson, mValue + dispersion].\n"
    ++ "interval(int64) is the interval in nanoseconds between events.\n\n"
    ++ "--genfakedata --stoplinear [propID(int32)]: Stop a linear generator\n\n"
    ++ "--genfakedata --keypress [keyCode(int32)] [display[int32]]: Generate key press.\n\n"

/-- All commands. -/
def all : String :=
  "Usage: \n\n"
    ++ "[no args]: dumps (id and value) all supported properties \n"
    ++ "--help: shows this help\n"
    ++ "--list: lists the ids of all supported properties\n"
    ++ "--get <PROP1> [PROP2] [PROPN]: dumps the value of specific properties. \n"
    ++ "--getWithArg <PROP> [ValueArguments]: gets the value for a specific property "
    ++ "with arguments. \n"
    ++ "--set <PROP> [ValueArguments]: sets the value of property PROP. \n"
    ++ "--save-prop <PROP> [-a AREA_ID]: saves the current value for PROP. \n"
    ++ "--restore-prop <PROP> [-a AREA_ID]: restores a previously saved property value. \n"
    ++ "--inject-event <PROP> [ValueArguments]: inject a property update event from car\n\n"
    ++ "ValueArguments are in the format of [-i INT_VALUE [INT_VALUE ...]] "
    ++ "[-i64 INT64_VALUE [INT64_VALUE ...]] [-f FLOAT_VALUE [FLOAT_VALUE ...]] "
    ++ "[-s STR_VALUE] "
    ++ "[-b BYTES_VALUE] [-a AREA_ID] [-t TIMESTAMP].\n"
    ++ "String, bytes, area and timestamp take exactly one value, the others one or more. "
    ++ "BYTES_VALUE is in the form of 0xXXXX, e.g. 0xdeadbeef.\n"
    ++ fakeData ++ "Fake user HAL usage: \n" ++ UserHal.help

end BenchVehicle.Help
