namespace TrafficSteering.Release

def name : String := "sfc-redirection"

def version : String := "0.2.0"

end TrafficSteering.Release
